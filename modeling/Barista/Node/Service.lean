import Barista.Node.Fleet
import Barista.Node.Reconcile

/-!
Contract: the requests a client may make of the node, as programs.

Each handler refuses what can be refused before anything is journaled, then submits one
operation; the answer is the operation's row. The capsule verbs appear by what they leave
in the `snapshots` table.

Owns: the statuses a client is given, and the handler of each mutating request. Does not own:
the read-only requests, and what an accepted operation does.
-/

namespace Barista.Node

open Foundation Fleet

/-! ### Statuses -/

inductive Code where
  | invalidArgument | notFound | alreadyExists | failedPrecondition | unavailable | internal
deriving DecidableEq, Repr

structure Status where
  code : Code
  /-- The `barista-reason` metadata. -/
  reason : Option ErrorReason
  message : String
deriving DecidableEq, Repr

namespace Status

def withReason (code : Code) (reason : ErrorReason) (message : String) : Status :=
  ⟨code, some reason, s!"{reason.asStrName}: {message}"⟩

def internal (cause : String) : Status := ⟨.internal, none, s!"internal: {cause}"⟩

def invalidArgument (message : String) : Status := ⟨.invalidArgument, none, message⟩

def notFound (message : String) : Status := ⟨.notFound, none, message⟩

end Status

def SubmitError.toStatus (refusal : SubmitError) : Status :=
  let code : Code := match refusal.reason with
    | .concurrentOperation | .capabilityMissing | .cursorTooOld | .snapshotInvalidated
    | .bundleMismatch | .cpuClassMismatch => .failedPrecondition
    | .invalidSpec => .invalidArgument
    | .templateNotFound => .notFound
    | .substrateUnavailable => .unavailable
    | .snapshotNameConflict => .alreadyExists
    | _ => .internal
  .withReason code refusal.reason refusal.message

/-! ### Requests -/

inductive ResumeTarget where
  | instanceId (id : String)
  | snapshotId (id : String)
deriving DecidableEq, Repr

structure ForkRequest where
  key : String
  targetInstanceId : String
  sourceSnapshotId : String
  requireCow : Bool
  targetSpec : Option InstanceSpec
deriving DecidableEq, Repr

inductive Rpc where
  | createInstance (key : String) (spec : Option InstanceSpec) (requireHardwareIsolation : Bool)
  | startInstance (key id : String)
  | stopInstance (key id : String) (graceSeconds : Nat)
  | destroyInstance (key id : String) (keepSnapshots : Bool)
  | pauseInstance (key id : String) (keepMemory : Option Bool) (requireMemory : Bool)
  | resumeInstance (key : String) (target : Option ResumeTarget) (requireMemory : Bool)
  | createSnapshot (key id name : String)
  | deleteSnapshot (key snapshotId : String)
  | forkInstance (request : ForkRequest)
deriving DecidableEq, Repr

abbrev Reply := Except Status OperationRow

def refuse (code : Code) (reason : ErrorReason) (message : String) : NodeProg Reply :=
  return .error (.withReason code reason message)

def submitFor (agent : Agent) (key id : String) (payload : OpPayload) : NodeProg Reply := do
  match ← submit agent payload.kind id key payload with
  | .ok op => return .ok op
  | .error refusal => return .error refusal.toStatus

def createInstance (agent : Agent) (key : String) (spec : Option InstanceSpec)
    (requireHardwareIsolation : Bool) : NodeProg Reply :=
  match spec with
  | none => return .error (.invalidArgument "spec is required")
  | some spec =>
    match admitSpec agent spec requireHardwareIsolation with
    | .error refusal =>
      refuse (if refusal.reason = .invalidSpec then .invalidArgument else .failedPrecondition)
        refusal.reason refusal.message
    | .ok () => submitFor agent key spec.instanceId (.create spec)

/-- `keep_memory` defaults to true; `require_memory` turns the preference into a guarantee. -/
def pauseInstance (agent : Agent) (key id : String) (keepMemory : Option Bool)
    (requireMemory : Bool) : NodeProg Reply :=
  let strict := keepMemory.getD true && requireMemory
  if strict ∧ agent.memorySnapshot = false then
    refuse .failedPrecondition .capabilityMissing
      (s!"require_memory was set but runtime '{agent.runtimeName}' cannot capture memory; use a " ++
        "memory-capable runtime or retry without require_memory to accept a DISK_ONLY pause")
  else submitFor agent key id (.pause strict)

def resumeInstance (agent : Agent) (key : String) (target : Option ResumeTarget)
    (requireMemory : Bool) : NodeProg Reply := do
  match target with
  | some (.instanceId id) => submitFor agent key id (.resume none requireMemory)
  | some (.snapshotId snapshotId) =>
    match ← query (.getSnapshot snapshotId) with
    | .error cause => return .error (.internal cause)
    | .ok none =>
      refuse .notFound .snapshotInvalidated s!"snapshot {snapshotId} is not known to this node"
    | .ok (some row) =>
      submitFor agent key row.instanceId (.resume (some snapshotId) requireMemory)
  | none =>
    refuse .invalidArgument .invalidSpec "resume needs either instance_id or snapshot_id"

def isLegalSnapshotName (name : String) : Bool :=
  name.utf8ByteSize ≤ 63 && !name.startsWith "-" && !name.endsWith "-" &&
    name.toList.all fun c => ('a' ≤ c && c ≤ 'z') || ('0' ≤ c && c ≤ '9') || c == '-'

def createSnapshot (agent : Agent) (key id name : String) : NodeProg Reply :=
  if agent.memorySnapshot = false then
    refuse .failedPrecondition .capabilityMissing
      (s!"runtime '{agent.runtimeName}' cannot capture memory, so it cannot produce a snapshot " ++
        "worth returning to. Use StopInstance if a disk-only artifact is what you want")
  else if name ≠ "" ∧ isLegalSnapshotName name = false then
    refuse .invalidArgument .invalidSpec
      (s!"snapshot name {quoted name} is not usable: names are at most 63 characters of lowercase " ++
        "letters, digits and dashes, and may not start or end with a dash")
  else submitFor agent key id (.createSnapshot (if name = "" then none else some name))

/-- A delete whose row is gone is answered by the operation that deleted it, if the key is that
operation's. -/
def replayDeletion (key snapshotId : String) : NodeProg Reply := do
  match ← query (.findOpByIdempotencyKey key) with
  | .error cause => return .error (.internal cause)
  | .ok found =>
    match found.filter fun op => op.kind = .deleteSnapshot ∧
        op.payload = payloadDescriptor (.deleteSnapshot snapshotId) with
    | some original => return .ok original
    | none => return .error (.notFound s!"snapshot {snapshotId} not found")

def deleteSnapshot (agent : Agent) (key snapshotId : String) : NodeProg Reply := do
  match ← query (.getSnapshot snapshotId) with
  | .error cause => return .error (.internal cause)
  | .ok none => replayDeletion key snapshotId
  | .ok (some row) => submitFor agent key row.instanceId (.deleteSnapshot snapshotId)

/-! ### Forks -/

/-- The capsule an instance-free snapshot row stands for. -/
def capsuleIdFromSnapshotId (snapshotId : String) : Option String :=
  if snapshotId.toList.take 8 = "capsule:".toList ∧ snapshotId.toList.drop 8 ≠ [] then
    some (String.ofList (snapshotId.toList.drop 8))
  else none

/-- Restore an imported capsule into a new instance: exact memory, or a refusal. -/
def restoreImportedCapsule (agent : Agent) (request : ForkRequest) : NodeProg Reply := do
  match capsuleIdFromSnapshotId request.sourceSnapshotId with
  | none =>
    refuse .failedPrecondition .invalidSpec (s!"snapshot {request.sourceSnapshotId} names no " ++
      "source instance and is not an imported capsule, so there is nothing to branch from")
  | some capsuleId =>
    if agent.capsuleImport = false then
      refuse .failedPrecondition .capabilityMissing
        "this runtime cannot restore an imported capsule (it does not report capsule_import)"
    else if agent.memorySnapshot = false then
      refuse .failedPrecondition .capabilityMissing
        ("restoring a capsule reinstates exact memory, and this runtime does not report " ++
          "memory_snapshot")
    else if request.requireCow then
      refuse .failedPrecondition .forkModeUnavailable
        ("require_cow cannot be honoured when restoring an imported capsule: there is no source " ++
          "instance on this node to share pages with. Retry without require_cow")
    else match request.targetSpec with
      | none =>
        refuse .invalidArgument .invalidSpec (s!"restoring capsule {capsuleId} needs " ++
          "target_spec: an imported capsule has no source instance whose spec the child could " ++
          "clone")
      | some targetSpec => restoreInto capsuleId targetSpec
where
  restoreInto (capsuleId : String) (targetSpec : InstanceSpec) : NodeProg Reply := do
    match ← beyond (.getCapsule capsuleId) with
    | .error cause => return .error (.internal cause)
    | .ok none =>
      refuse .notFound .capsuleIncompatible s!"capsule {capsuleId} is not registered on this node"
    | .ok (some manifest) =>
      match decideCapsule agent manifest targetSpec with
      | some (reason, why) =>
        refuse .failedPrecondition reason
          s!"capsule {capsuleId} cannot be restored here: {why}"
      | none =>
        -- One field decides an instance's identity, whatever the spec was left with.
        submitFor agent request.key request.targetInstanceId
          (.restoreCapsule { targetSpec with instanceId := request.targetInstanceId } capsuleId
            request.sourceSnapshotId
            ⟨if manifest.lineageId = "" then request.targetInstanceId else manifest.lineageId,
              request.sourceSnapshotId, capsuleId, ""⟩)

/-- A child joins its source's lineage; a source without one is its root. -/
def forkLineage (source : InstanceRow) (snapshotId : String) : Lineage where
  lineageId :=
    match source.lineage with
    | some lineage => if lineage.lineageId = "" then source.instanceId else lineage.lineageId
    | none => source.instanceId
  sourceSnapshotId := snapshotId
  sourceCapsuleId := ""
  parentInstanceId := source.instanceId

/-- Fork an instance of this node at one of its snapshots. The child is the source, renamed. -/
def forkLocal (agent : Agent) (request : ForkRequest) (sourceId : String) : NodeProg Reply := do
  if request.requireCow ∧ agent.cowFork = false then
    refuse .failedPrecondition .forkModeUnavailable
      ("require_cow was set but this runtime has no copy-on-write fork; retry without require_cow " ++
        "to accept a full-copy freeze, or use a runtime that reports cow_fork")
  else if agent.cowFork = false ∧ agent.fullCopyFork = false then
    refuse .failedPrecondition .forkModeUnavailable
      "this runtime cannot fork an instance (it reports neither cow_fork nor full_copy_fork)"
  else match ← query (.getInstance sourceId) with
    | .error cause => return .error ⟨.internal, none, s!"reading source {sourceId}: {cause}"⟩
    | .ok none =>
      refuse .notFound .invalidSpec (s!"snapshot {request.sourceSnapshotId} names source " ++
        s!"{sourceId}, which no longer exists on this node")
    | .ok (some source) =>
      submitFor agent request.key request.targetInstanceId
        (.fork { source.spec with instanceId := request.targetInstanceId } sourceId
          request.sourceSnapshotId (forkLineage source request.sourceSnapshotId)
          request.requireCow source.guestToken source.identity)

def forkInstance (agent : Agent) (request : ForkRequest) : NodeProg Reply := do
  if request.targetInstanceId = "" then
    return .error (.invalidArgument "target_instance_id is required")
  else if request.sourceSnapshotId = "" then
    return .error (.invalidArgument "source_snapshot_id is required")
  else match ← query (.getSnapshot request.sourceSnapshotId) with
    | .error cause =>
      return .error ⟨.internal, none, s!"reading snapshot {request.sourceSnapshotId}: {cause}"⟩
    | .ok none =>
      refuse .notFound .invalidSpec
        s!"no snapshot {request.sourceSnapshotId} is registered on this node to fork"
    | .ok (some snapshot) =>
      if snapshot.instanceId = "" then restoreImportedCapsule agent request
      else forkLocal agent request snapshot.instanceId

def Rpc.serve (agent : Agent) : Rpc → NodeProg Reply
  | createInstance key spec requireHardwareIsolation =>
    Node.createInstance agent key spec requireHardwareIsolation
  | startInstance key id => submitFor agent key id .start
  | stopInstance key id graceSeconds => submitFor agent key id (.stop graceSeconds)
  | destroyInstance key id keepSnapshots => submitFor agent key id (.destroy keepSnapshots)
  | pauseInstance key id keepMemory requireMemory =>
    Node.pauseInstance agent key id keepMemory requireMemory
  | resumeInstance key target requireMemory => Node.resumeInstance agent key target requireMemory
  | createSnapshot key id name => Node.createSnapshot agent key id name
  | deleteSnapshot key snapshotId => Node.deleteSnapshot agent key snapshotId
  | forkInstance request => Node.forkInstance agent request

/-! ### Requests without an operation -/

def timestampMs (at_ : Timestamp) : Option Int :=
  if -62135596800 ≤ at_.seconds ∧ at_.seconds ≤ 253402300799 ∧ 0 ≤ at_.nanos ∧
      at_.nanos < 1000000000 then
    some (at_.seconds * 1000 + at_.nanos.tdiv 1000000)
  else none

def armWake (id : String) (wakeAtMs : Option Int) : NodeProg (Except Status InstanceRow) := do
  match ← query (.setWakeAt id wakeAtMs) with
  | .error cause => return .error (.internal cause)
  | .ok () =>
    match ← query (.getInstance id) with
    | .error cause => return .error (.internal cause)
    | .ok none => return .error (.notFound s!"instance {id} not found")
    | .ok (some row) => return .ok row

/-- Future or clear: a deadline already past would fire on the next tick. -/
def setWake (id : String) (wakeAt : Option Timestamp) : NodeProg (Except Status InstanceRow) := do
  match ← query (.getInstance id) with
  | .error cause => return .error (.internal cause)
  | .ok none => return .error (.notFound s!"instance {id} not found")
  | .ok (some row) =>
    if row.state = .destroyed then
      return .error (.withReason .failedPrecondition .invalidSpec
        s!"instance {id} is DESTROYED, so a wake alarm on it could never fire")
    else match wakeAt with
      | none => armWake id none
      | some at_ =>
        match timestampMs at_ with
        | none =>
          return .error (.withReason .invalidArgument .invalidSpec
            (s!"wake_at is not a usable timestamp (seconds {at_.seconds}, nanos " ++
              s!"{at_.nanos}); " ++ "\x60google.protobuf.Timestamp\x60 runs from 0001-01-01 " ++
              "to 9999-12-31 with nanos in [0, 999999999]"))
        | some ms =>
          if ms ≤ (← clock) then
            return .error (.withReason .invalidArgument .invalidSpec
              (s!"wake_at must be in the future ({ms} ms is already past); omit wake_at to " ++
                "clear the alarm instead"))
          else armWake id (some ms)

def openGuest (id : String) : NodeProg (Except Status Unit) := do
  match ← query (.getInstance id) with
  | .error cause => return .error (.internal cause)
  | .ok none => return .error (.notFound s!"instance {id} not found")
  | .ok (some row) =>
    if row.state ≠ .running then
      return .error (.withReason .failedPrecondition .guestUnreachable
        s!"instance {id} is {row.state.debug}, not RUNNING")
    else match ← beyond (.connectGuest id) with
      | .ok () => return .ok ()
      | .error (.unsupported runtime) =>
        return .error (.withReason .failedPrecondition .capabilityMissing
          s!"runtime '{runtime}' provides no guest channel")
      | .error (.unreachable message) => do
          Events.degradation id "" s!"GUEST_UNREACHABLE: {message}"
          return .error (.withReason .unavailable .guestUnreachable message)

/-- What `Exec`, `ReadFile` and `WriteFile` do to the journal: a channel that opens is activity. -/
def passthrough (id : String) : NodeProg Unit := do
  match ← openGuest id with
  | .ok () => noteActivity id
  | .error _ => return ()

/-- What a verified import leaves in the journal: an instance-free snapshot row, so that the
capsule can be restored. -/
def registerImport (capsuleId : String) (manifest : CapsuleManifest) (remote : Bool) :
    NodeProg Unit := do
  let createdAtMs ← clock
  discard (query (.insertSnapshot {
    snapshotId := "capsule:" ++ capsuleId
    instanceId := ""
    kind := manifest.kind
    cpuClass := manifest.cpuClass
    templateHash := manifest.templateHash
    runtimeBundleRef := manifest.runtimeBundleRef
    tier := if remote then .objectStore else .local_
    createdAtMs := createdAtMs
    name := "" }))

/-- What a delete of a capsule leaves in the journal, by what is registered under its id. -/
def deleteCapsule (capsuleId : String) : NodeProg Unit := do
  match ← beyond (.getCapsule capsuleId) with
  | .error _ => return ()
  | .ok found => discard (query (.deleteCapsule capsuleId found.isSome))

end Barista.Node
