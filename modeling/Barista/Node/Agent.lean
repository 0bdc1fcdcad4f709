import Barista.Node.World

/-!
Contract: what the node agent is configured with, and whether a snapshot or a capsule may
be restored on it.

Owns: the agent's configuration, the checks it borrows from other crates, and the two
restore decisions.
-/

namespace Barista.Node

open Foundation Fleet

/-- What the node agent is configured with, and the checks it borrows from other crates. -/
structure Agent where
  nodeId : String
  advertise : String
  timing : Timing
  runtimeName : String
  runtimeVersion : String
  cpuClass : String
  hardwareIsolation : Bool
  egressControl : Bool
  memorySnapshot : Bool
  liveCheckpoint : Bool
  cowFork : Bool
  fullCopyFork : Bool
  capsuleImport : Bool
  enumeratesSandboxes : Bool
  /-- The channel identity of a new instance, `none` where the transport needs none. -/
  mintIdentity : String → Except String (Option Identity)
  /-- `ulid::Ulid::from_string`, with its complaint. -/
  parseUlid : String → Except String Unit
  /-- `InstanceSpec::decode`. -/
  decodeSpec : List UInt8 → Except String InstanceSpec
  /-- The hash over a spec's image digest, bundle, architecture and resources. -/
  templateHash : InstanceSpec → String
  /-- The last segment of an object's path. -/
  filename : String → Option String

/-- Node `n1`, with the default timing; an id is taken by its length, and every spec decodes to that
of one instance. -/
def Agent.plain : Agent where
  nodeId := "n1"
  advertise := "n1:7070"
  timing := .default
  runtimeName := "mock"
  runtimeVersion := "bundle"
  cpuClass := "cpu"
  hardwareIsolation := true
  egressControl := true
  memorySnapshot := true
  liveCheckpoint := true
  cowFork := true
  fullCopyFork := true
  capsuleImport := true
  enumeratesSandboxes := false
  mintIdentity := fun _ => .ok none
  parseUlid := fun text => if text.length = 26 then .ok () else .error "invalid length"
  decodeSpec := fun _ => .ok (.pinned ulid 0)
  templateHash := fun spec => (spec.oci.map OciImageRef.digest).getD ""
  filename := some

def quoted (text : String) : String :=
  let escape (c : Char) : String := if c = '"' ∨ c = '\\' then "\\" ++ c.toString else c.toString
  "\"" ++ String.join (text.toList.map escape) ++ "\""

/-! ### Restoring a snapshot -/

inductive Restore where
  | fromMemory
  | coldBoot (reason : ErrorReason) (why : String)
  | refuse (reason : ErrorReason) (why : String)
deriving DecidableEq, Repr

/-- A caller that requires memory turns every fallback into a refusal. -/
def Restore.fallback (requireMemory : Bool) (reason : ErrorReason) (why : String) : Restore :=
  if requireMemory then .refuse reason why else .coldBoot reason why

/-- Decide, given the snapshot, if any, and the instance's current spec. -/
def Restore.decide (agent : Agent) (snapshot : Option SnapshotRow) (row : InstanceRow)
    (requireMemory : Bool) : Restore :=
  match snapshot with
  | none =>
    .fallback requireMemory .snapshotInvalidated "the instance has no snapshot to resume from"
  | some snapshot =>
    if snapshot.kind ≠ .memoryAndDisk then
      .fallback requireMemory .snapshotInvalidated
        (s!"snapshot {snapshot.snapshotId} captured {snapshot.kind.asStrName} — there is no " ++
          "memory in it to restore")
    else if snapshot.templateHash ≠ agent.templateHash row.spec then
      .fallback requireMemory .bundleMismatch
        (s!"snapshot {snapshot.snapshotId} was taken from template {snapshot.templateHash} but " ++
          s!"the instance now specifies {agent.templateHash row.spec}")
    else if snapshot.runtimeBundleRef ≠ agent.runtimeVersion then
      .fallback requireMemory .bundleMismatch
        (s!"snapshot {snapshot.snapshotId} was taken by bundle " ++
          s!"{quoted snapshot.runtimeBundleRef} and this node runs {quoted agent.runtimeVersion}")
    -- A node-local snapshot is restored onto the machine that took it.
    else if snapshot.tier = .objectStore ∧ snapshot.cpuClass ≠ agent.cpuClass then
      .fallback requireMemory .cpuClassMismatch
        (s!"snapshot {snapshot.snapshotId} was taken on CPU class {quoted snapshot.cpuClass} " ++
          s!"and this node is {quoted agent.cpuClass}")
    else .fromMemory

/-- The snapshot a resume is about: the one it names, or the instance's latest. -/
def snapshotToRestore (id : String) : Option String → NodeProg (Option SnapshotRow)
  | some snapshotId => do
      let found ← query (.getSnapshot snapshotId)
      return found.toOption.join
  | none => do
      let found ← query (.getInstance id)
      match found.toOption.join with
      | none => return none
      | some row =>
        if row.latestSnapshotId = "" then return none
        else do
          let latest ← query (.getSnapshot row.latestSnapshotId)
          return latest.toOption.join

/-- The restore decision for a resume, resolved from the journal. -/
def resolveRestore (agent : Agent) (id : String) (snapshotId : Option String)
    (requireMemory : Bool) : NodeProg (Option InstanceRow × Restore) := do
  let snapshot ← snapshotToRestore id snapshotId
  let found ← query (.getInstance id)
  match found.toOption.join with
  | some row => return (some row, .decide agent snapshot row requireMemory)
  | none => return (none, .refuse .unspecified s!"{id} is not in the journal")

/-! ### Restoring an imported capsule -/

/-- Why a capsule cannot be restored into a target spec here, if it cannot. A capsule restore
has no permissive branch. -/
def decideCapsule (agent : Agent) (manifest : CapsuleManifest) (target : InstanceSpec) :
    Option (ErrorReason × String) :=
  if manifest.kind ≠ .memoryAndDisk then
    some (.capsuleIncompatible,
      s!"capsule captured {manifest.kind.asStrName} — an exact restore " ++
      "needs memory, and a cold boot from it would not be one")
  else if manifest.architecture ≠ target.arch then
    some (.capsuleIncompatible, s!"capsule architecture {quoted manifest.architecture} does not " ++
      s!"match target architecture {quoted target.arch}")
  else if manifest.cpuClass ≠ agent.cpuClass then
    some (.cpuClassMismatch,
      s!"capsule was taken on CPU class {quoted manifest.cpuClass} and this " ++
      s!"node is {quoted agent.cpuClass}")
  else if manifest.templateHash ≠ agent.templateHash target then
    some (.capsuleIncompatible,
      s!"capsule was taken from template {manifest.templateHash} but the " ++
      s!"requested target specifies {agent.templateHash target} — restoring exact memory into a " ++
      "different machine is refused")
  else if manifest.runtimeBundleRef ≠ agent.runtimeVersion then
    some (.bundleMismatch,
      s!"capsule was taken by bundle {quoted manifest.runtimeBundleRef} and " ++
      s!"this node runs {quoted agent.runtimeVersion}")
  else none

end Barista.Node
