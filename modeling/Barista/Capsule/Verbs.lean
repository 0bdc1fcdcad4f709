import Barista.Capsule.ObjectStore

/-!
Contract: the capsule verbs.

An export stages and publishes each object of a snapshot and registers the capsule afterwards. An
attempt to import a capsule verifies each object at the tier it claims, registers the capsule, and
then makes it restorable; a delete releases the objects in the journal and collects what nobody refers to; a
restore reads a registered capsule's objects back. At boot the store is reconciled with the journal.

Owns: the verbs as programs over the store's actions. Does not own: the reservation of a verb's key,
or the boot of a restored sandbox.
-/

namespace Barista.Capsule

open Foundation
open Node (ErrorReason SnapshotKind SnapshotRow SnapshotTier)
open Prog (attempt mapError each)

structure CapsuleAgent where
  objects : ObjectStore
  arch : Text
  cpuClass : Text
  capsuleExport : Bool
  capsuleImport : Bool
  memorySnapshot : Bool

def achieved (tier : CapsuleStorage) : CapsuleStorage :=
  if tier = .objectStore then .objectStore else .localDir

def totalSize (objects : List CapsuleObject) : Nat :=
  (objects.map fun object => object.length.toNat).sum

def SnapshotKind.toInt32 : SnapshotKind → Int32
  | .unspecified => 0
  | .diskOnly => 1
  | .memoryAndDisk => 2

/-- The kind of a wire number; an unknown one is unspecified. -/
def SnapshotKind.ofInt32 (number : Int32) : SnapshotKind :=
  if number = 1 then .diskOnly else if number = 2 then .memoryAndDisk else .unspecified

def CapsuleObjectType.asStrName : CapsuleObjectType → String
  | .unspecified => "CAPSULE_OBJECT_TYPE_UNSPECIFIED"
  | .memory => "CAPSULE_OBJECT_TYPE_MEMORY"
  | .disk => "CAPSULE_OBJECT_TYPE_DISK"
  | .metadata => "CAPSULE_OBJECT_TYPE_METADATA"

def capsuleImportCapability : Text := ⟨"capsule_import", by decide⟩

def memoryRestoreCapability : Text := ⟨"memory_restore", by decide⟩

section Verbs

variable (agent : CapsuleAgent)

/-! ### Export -/

/-- Stage one object and publish it at the tier that is asked for. -/
def exportObject (tier : CapsuleStorage) (object : SnapshotObject) :
    StoreProg (Except CapsuleError CapsuleObject) :=
  attempt (mapError (fun cause => (.unspecified, s!"staging object: {cause}"))
    (agent.objects.stage object.bytes)) fun staged =>
  attempt (mapError (fun cause => (.capsuleVerificationFailed, cause))
    (if tier = .objectStore then agent.objects.commitRemote staged staged.digest staged.length
      else ObjectStore.commit staged staged.digest staged.length)) fun _ =>
  return .ok ⟨staged.digest, staged.length, object.type.toInt32, mediaType object.type⟩

def exportManifest (snapshot : SnapshotSource) (lineage : Option Text)
    (objects : Vec CapsuleObject) : CapsuleManifest where
  schemaVersion := SCHEMA_VERSION
  cpuClass := snapshot.cpuClass
  templateHash := snapshot.templateHash
  runtimeBundleRef := snapshot.runtimeBundleRef
  kind := SnapshotKind.toInt32 snapshot.kind
  objects := objects
  lineageId := (lineage.filter fun id => id.val ≠ "").getD snapshot.instanceId
  architecture := agent.arch
  createdAt := some ⟨.ofInt (snapshot.createdAtMs / 1000),
    .ofInt (snapshot.createdAtMs % 1000 * 1000000)⟩
  requiredRestoreCapabilities :=
    if snapshot.kind = .memoryAndDisk then
      ⟨[capsuleImportCapability, memoryRestoreCapability], by simp⟩
    else ⟨[capsuleImportCapability], by simp⟩

def capsuleRow (manifest : CapsuleManifest) (tier : CapsuleStorage) (now : Int) : CapsuleRow :=
  ⟨capsuleId agent.objects.sha256 manifest, manifest, achieved tier,
    totalSize manifest.objects.val, now⟩

def register (row : CapsuleRow) : StoreProg (Except CapsuleError CapsuleRow) :=
  mapError (fun cause => (.unspecified, s!"registering capsule: {cause}"))
    (perform (.registerCapsule row))

def exportCapsule (snapshotId : String) (tier : CapsuleStorage) :
    StoreProg (Except CapsuleError CapsuleRow) :=
  if tier = .objectStore ∧ agent.objects.remote = none then
    return .error (.objectStoreUnavailable, "the object-store capsule tier is not configured on " ++
      "this node; export to the local tier or configure a capsule bucket (barista-046 §4.4)")
  else
    attempt (mapError (fun cause => (.unspecified, s!"reading snapshot: {cause}"))
      (perform (.getSnapshot snapshotId))) fun found =>
    match found with
    | none =>
      return .error (.invalidSpec,
        s!"no snapshot {snapshotId} is registered on this node to export")
    | some snapshot =>
      if !agent.capsuleExport then
        return .error (.capabilityMissing, "this runtime cannot export a snapshot as a capsule")
      else
        attempt (perform (.exportSnapshot snapshotId)) fun objects =>
        attempt (each (exportObject agent tier) objects.val) fun exported => do
          let lineage ← perform (.getLineage snapshot.instanceId)
          let now ← perform .now
          let listed : Vec CapsuleObject :=
            ⟨exported.val, exported.property.trans_lt objects.property⟩
          register (capsuleRow agent (exportManifest agent snapshot lineage listed) tier now)

/-! ### Import -/

/-- What a manifest is refused for before any bytes are moved. -/
def preflight (manifest : CapsuleManifest) (storage : CapsuleStorage) :
    Except CapsuleError Unit := do
  if storage = .objectStore ∧ agent.objects.remote = none then
    throw (.objectStoreUnavailable, "this capsule's objects live in an object store and none is " ++
      "configured on this node (barista-046 §4.4)")
  if !agent.capsuleImport then
    throw (.capabilityMissing, "this runtime cannot import a capsule")
  if manifest.schemaVersion ≠ SCHEMA_VERSION then
    throw (.capsuleIncompatible, s!"capsule schema \"{manifest.schemaVersion.val}\" is not " ++
      s!"understood by this node (expected \"{SCHEMA_VERSION.val}\")")
  if manifest.architecture.val = "" ∨ manifest.architecture ≠ agent.arch then
    throw (.capsuleIncompatible,
      s!"capsule architecture \"{manifest.architecture.val}\" does not " ++
      s!"match this node's \"{agent.arch.val}\"")
  match manifest.createdAt with
  | none => throw (.invalidSpec, "capsule manifest has no creation time")
  | some createdAt =>
    if ¬ (0 ≤ createdAt.nanos ∧ createdAt.nanos < 1000000000) then
      throw (.invalidSpec, "capsule creation time has invalid nanoseconds")
  let required := manifest.requiredRestoreCapabilities.val
  if capsuleImportCapability ∉ required ∨ (SnapshotKind.ofInt32 manifest.kind = .memoryAndDisk ∧
      memoryRestoreCapability ∉ required) then
    throw (.invalidSpec, "capsule manifest omits a capability required by its snapshot kind")
  match required.find? fun capability =>
      !(capability = capsuleImportCapability && agent.capsuleImport ||
        capability = memoryRestoreCapability && agent.memorySnapshot) with
  | some capability => throw (.capabilityMissing,
      s!"capsule requires unsupported restore capability \"{capability.val}\"")
  | none => pure ()
  if manifest.cpuClass.val ≠ "" ∧ manifest.cpuClass ≠ agent.cpuClass then
    throw (.capsuleIncompatible,
      s!"capsule cpu_class \"{manifest.cpuClass.val}\" does not match " ++
      s!"this node's \"{agent.cpuClass.val}\"; exact restore would fail rather than silently cold-boot")

/-- Why an object that could not be found refuses the import. -/
def missingObject (storage : CapsuleStorage) (object : CapsuleObject) : String :=
  let bucket := agent.objects.remote.getD "the configured object store"
  let elsewhere := match agent.objects.remote with
    | some label => s!" or in {label}"
    | none => ""
  if storage = .objectStore then
    s!"object {object.digest.val} named by the manifest is not in {bucket}; an OBJECT_STORE import " ++
      "must verify every object from the bucket, and a local copy is not durability evidence"
  else s!"object {object.digest.val} named by the manifest is not present in this node's " ++
    s!"store{elsewhere}"

def importObject (storage : CapsuleStorage) (object : CapsuleObject) :
    StoreProg (Except CapsuleError Unit) :=
  let objectType := (CapsuleObjectType.tryFrom object.type).getD .unspecified
  if objectType = .unspecified ∨ object.mediaType ≠ mediaType objectType then
    return .error (.invalidSpec, s!"object {object.digest.val} has media type " ++
      s!"\"{object.mediaType.val}\"; expected \"{(mediaType objectType).val}\" for " ++
      objectType.asStrName)
  else
    attempt (mapError (fun cause => (.capsuleVerificationFailed,
        s!"object {object.digest.val} failed verification: {cause}"))
      (if storage = .objectStore then agent.objects.fetchRemoteVerified object.digest
        else agent.objects.fetch object.digest)) fun fetched =>
    match fetched with
    | none => return .error (.capsuleVerificationFailed, missingObject agent storage object)
    | some bytes =>
      if byteLength bytes = object.length then return .ok ()
      else return .error (.capsuleVerificationFailed, s!"object {object.digest.val} is " ++
        s!"{bytes.val.length} bytes but the manifest claims {object.length}")

/-- The snapshot row an imported capsule is restorable under. -/
def importedSnapshot (manifest : CapsuleManifest) (storage : CapsuleStorage) (now : Int) :
    SnapshotRow where
  snapshotId := importedSnapshotId (capsuleId agent.objects.sha256 manifest)
  instanceId := ""
  kind := SnapshotKind.ofInt32 manifest.kind
  cpuClass := manifest.cpuClass.val
  templateHash := manifest.templateHash.val
  runtimeBundleRef := manifest.runtimeBundleRef.val
  tier := if storage = .objectStore then .objectStore else .local_
  createdAtMs := now
  name := ""

/-- The capsule and its snapshot row are written in two transactions. -/
def importCapsule (manifest : CapsuleManifest) (storage : CapsuleStorage) :
    StoreProg (Except CapsuleError CapsuleRow) :=
  match preflight agent manifest storage with
  | .error cause => return .error cause
  | .ok () =>
    attempt (each (importObject agent storage) manifest.objects.val) fun _ => do
      let now ← perform .now
      attempt (register (capsuleRow agent manifest storage now)) fun registered => do
        let later ← perform .now
        attempt (mapError (fun cause => (.unspecified, s!"registering snapshot: {cause}"))
          (perform (.insertSnapshot (importedSnapshot agent manifest storage later)))) fun _ =>
        return .ok registered

/-! ### Delete, restore and boot -/

/-- The record goes first, then the bytes. A collection that fails is retried by the next. -/
def deleteCapsule (capsuleId : Text) (scan : Nat) : StoreProg (Except CapsuleError Text) :=
  attempt (mapError (fun cause => (.unspecified, s!"deleting capsule: {cause}"))
    (perform (.deleteCapsule capsuleId))) fun _ => do
    let _ ← ObjectStore.runGc scan
    return .ok capsuleId

def loadObject (capsuleId : Text) (object : CapsuleObject) :
    StoreProg (Except CapsuleError SnapshotObject) :=
  attempt (mapError (fun cause => (.capsuleVerificationFailed,
      s!"object {object.digest.val} failed verification: {cause}"))
    (agent.objects.fetch object.digest)) fun fetched =>
  match fetched with
  | none => return .error (.capsuleVerificationFailed, s!"object {object.digest.val} of capsule " ++
      s!"{capsuleId.val} is no longer in this node's store")
  | some bytes =>
    if byteLength bytes ≠ object.length then
      return .error (.capsuleVerificationFailed, s!"object {object.digest.val} is " ++
        s!"{bytes.val.length} bytes but capsule {capsuleId.val} claims {object.length}")
    else return .ok ⟨(CapsuleObjectType.tryFrom object.type).getD .unspecified, bytes⟩

def loadCapsuleObjects (capsuleId : Text) : StoreProg (Except CapsuleError (List SnapshotObject)) :=
  attempt (mapError (fun cause => (.unspecified, s!"reading capsule {capsuleId.val}: {cause}"))
    (perform (.getCapsule capsuleId))) fun found =>
  match found with
  | none =>
    return .error (.capsuleIncompatible, s!"capsule {capsuleId.val} is no longer registered " ++
      "on this node; it was deregistered between the request and its execution")
  | some row =>
    attempt (each (loadObject agent capsuleId) row.manifest.objects.val) fun objects =>
    return .ok objects.val

/-- A reconciliation that fails does not keep the node from serving. -/
def bootstrap (scan : Nat) : StoreProg (Except CapsuleError Unit) := do
  let _ ← ObjectStore.runStartupGc scan
  let _ ← perform .serve
  return .ok ()

end Verbs

inductive Verb where
  | exportCapsule (snapshotId : String) (tier : CapsuleStorage)
  | importCapsule (manifest : CapsuleManifest) (storage : CapsuleStorage)
  | deleteCapsule (capsuleId : Text) (scan : Nat)
  | loadCapsuleObjects (capsuleId : Text)
  | bootstrap (scan : Nat)

def Verb.prog (agent : CapsuleAgent) : Verb → StoreProg (Except CapsuleError Unit)
  | .exportCapsule snapshotId tier =>
    attempt (Capsule.exportCapsule agent snapshotId tier) fun _ => return .ok ()
  | .importCapsule manifest storage =>
    attempt (Capsule.importCapsule agent manifest storage) fun _ => return .ok ()
  | .deleteCapsule capsuleId scan =>
    attempt (Capsule.deleteCapsule capsuleId scan) fun _ => return .ok ()
  | .loadCapsuleObjects capsuleId =>
    attempt (Capsule.loadCapsuleObjects agent capsuleId) fun _ => return .ok ()
  | .bootstrap scan => Capsule.bootstrap scan

/-- A call of the store by whoever holds it. Bytes that are staged and never committed are a call
that goes no further. -/
inductive StoreCall where
  | commit (bytes : Vec UInt8) (expectedDigest : Text) (expectedLength : UInt64)
  | commitRemote (bytes : Vec UInt8) (expectedDigest : Text) (expectedLength : UInt64)
  | fetch (digest : Text)
  | fetchRemoteVerified (digest : Text)
  | remove (digest : Text)
  | runGc (scan : Nat)
  | runStartupGc (scan : Nat)

def StoreCall.prog (agent : CapsuleAgent) (call : StoreCall) :
    StoreProg (Except CapsuleError Unit) :=
  mapError (fun cause => (.unspecified, cause)) <| match call with
    | .commit bytes expectedDigest expectedLength =>
      attempt (agent.objects.stage bytes) fun staged =>
      ObjectStore.commit staged expectedDigest expectedLength
    | .commitRemote bytes expectedDigest expectedLength =>
      attempt (agent.objects.stage bytes) fun staged =>
      agent.objects.commitRemote staged expectedDigest expectedLength
    | .fetch digest => attempt (agent.objects.fetch digest) fun _ => return .ok ()
    | .fetchRemoteVerified digest =>
      attempt (agent.objects.fetchRemoteVerified digest) fun _ => return .ok ()
    | .remove digest => ObjectStore.remove digest
    | .runGc scan => attempt (ObjectStore.runGc scan) fun _ => return .ok ()
    | .runStartupGc scan => attempt (ObjectStore.runStartupGc scan) fun _ => return .ok ()

end Barista.Capsule
