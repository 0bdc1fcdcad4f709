import Mathlib.Data.List.Sort
import Barista.Foundation.Table
import Barista.Node.StateMachine

/-!
Contract: the node's journal and the transactions made on it.

Every function here is one call under the journal's connection lock: it reads and
writes as one step, and one that returns an error has written nothing. Clock
readings are arguments.

Owns: the rows of the `instances`, `operations`, `snapshots` and `fleet_leases` tables,
the event log, and the transactions over them. Left out: the capsule and object tables,
which none of these transactions touch.
-/

namespace Barista.Node

open Foundation

/-! ### Rows -/

inductive OpKind where
  | create | start | stop | pause | resume | createSnapshot | deleteSnapshot | destroy | fork
deriving DecidableEq, Repr

inductive ErrorReason where
  | unspecified | invalidSpec | templateNotFound | bundleMismatch | cpuClassMismatch
  | capabilityMissing | concurrentOperation | guestUnreachable | hookTimeout
  | resourcesExhausted | snapshotInvalidated | substrateUnavailable | cursorTooOld
  | snapshotNameConflict | forkModeUnavailable | capsuleVerificationFailed
  | capsuleIncompatible | capsuleNotFound | objectStoreUnavailable | epochRevoked
deriving DecidableEq, Repr

namespace ErrorReason

def asStrName : ErrorReason → String
  | unspecified => "ERROR_REASON_UNSPECIFIED"
  | invalidSpec => "ERROR_REASON_INVALID_SPEC"
  | templateNotFound => "ERROR_REASON_TEMPLATE_NOT_FOUND"
  | bundleMismatch => "ERROR_REASON_BUNDLE_MISMATCH"
  | cpuClassMismatch => "ERROR_REASON_CPU_CLASS_MISMATCH"
  | capabilityMissing => "ERROR_REASON_CAPABILITY_MISSING"
  | concurrentOperation => "ERROR_REASON_CONCURRENT_OPERATION"
  | guestUnreachable => "ERROR_REASON_GUEST_UNREACHABLE"
  | hookTimeout => "ERROR_REASON_HOOK_TIMEOUT"
  | resourcesExhausted => "ERROR_REASON_RESOURCES_EXHAUSTED"
  | snapshotInvalidated => "ERROR_REASON_SNAPSHOT_INVALIDATED"
  | substrateUnavailable => "ERROR_REASON_SUBSTRATE_UNAVAILABLE"
  | cursorTooOld => "ERROR_REASON_CURSOR_TOO_OLD"
  | snapshotNameConflict => "ERROR_REASON_SNAPSHOT_NAME_CONFLICT"
  | forkModeUnavailable => "ERROR_REASON_FORK_MODE_UNAVAILABLE"
  | capsuleVerificationFailed => "ERROR_REASON_CAPSULE_VERIFICATION_FAILED"
  | capsuleIncompatible => "ERROR_REASON_CAPSULE_INCOMPATIBLE"
  | capsuleNotFound => "ERROR_REASON_CAPSULE_NOT_FOUND"
  | objectStoreUnavailable => "ERROR_REASON_OBJECT_STORE_UNAVAILABLE"
  | epochRevoked => "ERROR_REASON_EPOCH_REVOKED"

def debug : ErrorReason → String
  | unspecified => "Unspecified"
  | invalidSpec => "InvalidSpec"
  | templateNotFound => "TemplateNotFound"
  | bundleMismatch => "BundleMismatch"
  | cpuClassMismatch => "CpuClassMismatch"
  | capabilityMissing => "CapabilityMissing"
  | concurrentOperation => "ConcurrentOperation"
  | guestUnreachable => "GuestUnreachable"
  | hookTimeout => "HookTimeout"
  | resourcesExhausted => "ResourcesExhausted"
  | snapshotInvalidated => "SnapshotInvalidated"
  | substrateUnavailable => "SubstrateUnavailable"
  | cursorTooOld => "CursorTooOld"
  | snapshotNameConflict => "SnapshotNameConflict"
  | forkModeUnavailable => "ForkModeUnavailable"
  | capsuleVerificationFailed => "CapsuleVerificationFailed"
  | capsuleIncompatible => "CapsuleIncompatible"
  | capsuleNotFound => "CapsuleNotFound"
  | objectStoreUnavailable => "ObjectStoreUnavailable"
  | epochRevoked => "EpochRevoked"

end ErrorReason

inductive ForkMode where
  | unspecified | cow | fullCopy
deriving DecidableEq, Repr

structure OciImageRef where
  image : String
  digest : String
deriving DecidableEq, Repr

/-- What to do with an instance whose TTL expired, or that declared itself idle. -/
inductive TtlAction where
  | unspecified | pause | stop | destroy
deriving DecidableEq, Repr

def TtlAction.debug : TtlAction → String
  | unspecified => "Unspecified"
  | pause => "Pause"
  | stop => "Stop"
  | destroy => "Destroy"

/-- An instance's immutable spec: the fields the node reads, and the encoding of the rest,
which it only compares. -/
structure InstanceSpec where
  instanceId : String
  oci : Option OciImageRef
  arch : String
  egressMediated : Bool
  ttlSeconds : Nat
  ttlAction : TtlAction
  idleAction : Option TtlAction
  otherFields : String
deriving DecidableEq, Repr

abbrev ulid : String := "01ARZ3NDEKTSV4RRFFQ69G5FAV"

/-- A spec pinned to an image, with everything else at its default. -/
def InstanceSpec.pinned (instanceId : String) (ttlSeconds : Nat) : InstanceSpec :=
  ⟨instanceId, some ⟨"image", "sha256:0"⟩, "", false, ttlSeconds, .unspecified, none, ""⟩

structure Identity where
  anchor : List UInt8
  guestCert : List UInt8
  guestKey : List UInt8
  hostCert : List UInt8
  hostKey : List UInt8
deriving DecidableEq, Repr

structure StopReason where
  requested : Bool
  exitCode : Option Int
  detail : String
deriving DecidableEq, Repr

structure Lineage where
  lineageId : String
  sourceSnapshotId : String
  sourceCapsuleId : String
  parentInstanceId : String
deriving DecidableEq, Repr

structure InstanceRow where
  instanceId : String
  spec : InstanceSpec
  state : InstanceState
  ready : Bool
  runtime : String
  createdAtMs : Int
  updatedAtMs : Int
  ttlDeadlineMs : Option Int
  latestSnapshotId : String
  guestToken : String
  identity : Option Identity
  wakeAtMs : Option Int
  stopReason : Option StopReason
  runEpochMs : Option Int
  lineage : Option Lineage
  executionEpoch : Nat
deriving DecidableEq, Repr

structure OperationRow where
  opId : String
  kind : OpKind
  instanceId : String
  idempotencyKey : String
  payload : String
  state : OperationState
  currentStep : String
  errorReason : ErrorReason
  errorMessage : String
  degraded : String
  createdAtMs : Int
  finishedAtMs : Option Int
  frozeWorkload : Bool
  actualForkMode : ForkMode
  executorActive : Bool
deriving DecidableEq, Repr

inductive SnapshotKind where
  | unspecified | diskOnly | memoryAndDisk
deriving DecidableEq, Repr

def SnapshotKind.asStrName : SnapshotKind → String
  | unspecified => "SNAPSHOT_KIND_UNSPECIFIED"
  | diskOnly => "SNAPSHOT_KIND_DISK_ONLY"
  | memoryAndDisk => "SNAPSHOT_KIND_MEMORY_AND_DISK"

inductive SnapshotTier where
  | unspecified | local_ | objectStore
deriving DecidableEq, Repr

/-- A snapshot this node offers for resume. The row of an imported capsule names no instance. -/
structure SnapshotRow where
  snapshotId : String
  instanceId : String
  kind : SnapshotKind
  cpuClass : String
  templateHash : String
  runtimeBundleRef : String
  tier : SnapshotTier
  createdAtMs : Int
  name : String
deriving DecidableEq, Repr

/-- A session name this node holds, as the journal remembers it. -/
structure HeldLeaseRow where
  name : String
  epoch : Nat
  instanceId : String
  fencing : Bool
  acquiredAtMs : Int
deriving DecidableEq, Repr

inductive EventType where
  | stateChanged | operationProgress | readyChanged | ttlWarning | degradation | restored
  | wakeFired | fenced | idleFired | lineageRecorded | epochRotated | capsuleExported
  | capsuleImported
deriving DecidableEq, Repr

structure EventRow where
  type : EventType
  instanceId : String
  opId : String
  state : InstanceState
  message : String
  atMs : Int
  stopReason : Option StopReason
deriving DecidableEq, Repr

structure Journal where
  instances : Table [InstanceRow.instanceId]
  operations : Table [OperationRow.opId, OperationRow.idempotencyKey]
  snapshots : Table [SnapshotRow.snapshotId]
  leases : Table [HeldLeaseRow.name]
  events : List EventRow
  nextExecutionEpoch : Nat

namespace Journal

def empty : Journal := ⟨.empty, .empty, .empty, .empty, [], 0⟩

/-! ### Reads -/

def getInstance (journal : Journal) (id : String) : Option InstanceRow :=
  journal.instances.find? fun row => row.instanceId == id

def getOperation (journal : Journal) (opId : String) : Option OperationRow :=
  journal.operations.find? fun op => op.opId == opId

def findOpByIdempotencyKey (journal : Journal) (key : String) : Option OperationRow :=
  journal.operations.find? fun op => op.idempotencyKey == key

def getSnapshot (journal : Journal) (snapshotId : String) : Option SnapshotRow :=
  journal.snapshots.find? fun row => row.snapshotId == snapshotId

/-- The snapshot an instance already holds under a name; the empty name names none. -/
def snapshotNamed (journal : Journal) (id name : String) : Option SnapshotRow :=
  if name = "" then none
  else journal.snapshots.find? fun row => row.instanceId == id && row.name == name

/-- Snapshots of one instance, newest first; those of every instance for the empty id. -/
def listSnapshots (journal : Journal) (id : String) : List SnapshotRow :=
  (journal.snapshots.rows.filter fun row => id == "" || row.instanceId == id).insertionSort
    fun left right => right.createdAtMs < left.createdAtMs ∨
      (left.createdAtMs = right.createdAtMs ∧ right.snapshotId ≤ left.snapshotId)

def activeOn (id : String) (op : OperationRow) : Bool :=
  op.instanceId == id && op.executorActive

def hasInflightOp (journal : Journal) (id : String) : Bool :=
  0 < journal.operations.count (activeOn id)

def heldLeases (journal : Journal) : List HeldLeaseRow :=
  journal.leases.rows.insertionSort fun left right => left.name ≤ right.name

/-! ### Guarded updates -/

def updateInstance (journal : Journal) (id : String) (set : InstanceRow → InstanceRow)
    (keeps : ∀ row, (set row).instanceId = row.instanceId) : Journal :=
  { journal with
    instances := journal.instances.update (fun row => row.instanceId == id) set
      (by simpa using keeps) }

theorem entering_keeps (state : InstanceState) (nowMs : Int) (row : InstanceRow) :
    { row with state := state, updatedAtMs := nowMs }.instanceId = row.instanceId := rfl

/-- `UPDATE operations SET … WHERE op_id = ? AND …`. -/
def updateOperation (journal : Journal) (opId : String) (guard : OperationRow → Bool)
    (set : OperationRow → OperationRow)
    (keeps : ∀ op, (set op).opId = op.opId ∧ (set op).idempotencyKey = op.idempotencyKey) :
    Journal :=
  { journal with
    operations := journal.operations.update (fun op => op.opId == opId && guard op) set
      (by simpa using ⟨fun op => (keeps op).1, fun op => (keeps op).2⟩) }

def countOperation (journal : Journal) (opId : String) (guard : OperationRow → Bool) : Nat :=
  journal.operations.count fun op => op.opId == opId && guard op

def inFlight (op : OperationRow) : Bool := op.state.isInFlight

end Journal

end Barista.Node
