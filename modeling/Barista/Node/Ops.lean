import Barista.Node.Agent

/-!
Contract: the operations model, as programs of the node.

A submission journals its operation before any side effect and hands it to an executor;
the executor journals each step before it runs and settles operation and instance in one
transaction. Around both edges of the executor's work the run state of the lease that
names the instance is stamped.

Owns: operation kinds, payload descriptors, `submitClaiming`, `execute`, `cancel`, crash
recovery, and the lease stamp.
-/

namespace Barista.Node

open Foundation Fleet

/-! ### The lease stamp -/

/-- `running` only for a row that reads exactly `running`; nothing for a failed read. -/
def runStateOf : Except String (Option InstanceRow) → Option String
  | .ok (some row) => if row.state = .running then some "running" else some "paused"
  | .ok none => some "paused"
  | .error _ => none

def leaseStateFor (instanceId : String) : NodeProg (Option String) :=
  if instanceId = "" then .pure (some "paused")
  else .step (S := NodeSig) (.runState instanceId) fun answer => .pure (runStateOf answer)

def leaseNaming (held : Std.TreeMap String Held) (instanceId : String) : Option (String × Held) :=
  held.toList.find? fun entry => entry.2.lease.instanceId == instanceId

/-- A refused stamp decides nothing, and a failed one is the next renewal's to repair. -/
def stampHeld (name : String) (held : Held) (state : String) : NodeProg Unit := do
  match ← onBucket (.stampState held) (stampState leaseCodec name held (some state)) with
  | .ok (.held next) => hold name next
  | _ => return ()

/-- Stamp the run state of the lease naming an instance, as part of the transition that
changed it. The state is read before `lease_writes` is taken. -/
def stampLeaseState (instanceId : String) : NodeProg Unit := do
  let joined ← inFleet
  if joined = false ∨ instanceId = "" then return ()
  match ← leaseStateFor instanceId with
  | none => return ()
  | some state =>
    locked do
      match leaseNaming (← readHeld) instanceId with
      | none => return ()
      | some (name, held) =>
        if held.lease.state = some state then return () else stampHeld name held state

/-! ### Operation kinds -/

namespace OpKind

def asStr : OpKind → String
  | create => "create"
  | start => "start"
  | stop => "stop"
  | pause => "pause"
  | resume => "resume"
  | createSnapshot => "create_snapshot"
  | deleteSnapshot => "delete_snapshot"
  | destroy => "destroy"
  | fork => "fork"

def touchesInstanceState : OpKind → Bool
  | createSnapshot | deleteSnapshot => false
  | _ => true

/-- The state entered at submission, and the state reached on success. -/
def states : OpKind → InstanceState × InstanceState
  | create => (.creating, .created)
  | start => (.starting, .running)
  | stop => (.stopping, .stopped)
  | pause => (.pausing, .paused)
  | resume => (.resuming, .running)
  | createSnapshot => (.checkpointing, .running)
  | deleteSnapshot => (.unspecified, .unspecified)
  | destroy => (.destroying, .destroyed)
  | fork => (.creating, .running)

end OpKind

/-- The state to record for an operation's duration, given where it found the instance. -/
def planTransition (kind : OpKind) (transitional source : InstanceState) : Option InstanceState :=
  if kind = .deleteSnapshot then some source
  else if kind = .createSnapshot ∧ source = .paused then some .paused
  else if source.canTransition transitional then some transitional
  else none

def payloadDescriptor : OpPayload → String
  | .create _ | .start => ""
  | .stop graceSeconds => s!"grace_seconds={graceSeconds}"
  | .pause requireMemory => s!"require_memory={requireMemory}"
  | .resume snapshotId requireMemory =>
    "snapshot_id=" ++ snapshotId.getD "" ++ s!" require_memory={requireMemory}"
  | .createSnapshot name => "name=" ++ name.getD ""
  | .deleteSnapshot snapshotId => s!"snapshot_id={snapshotId}"
  | .destroy keepSnapshots => s!"keep_snapshots={keepSnapshots}"
  | .fork _ _ sourceSnapshotId _ requireCow _ _ =>
    s!"source_snapshot_id={sourceSnapshotId} require_cow={requireCow}"
  | .restoreCapsule _ capsuleId sourceSnapshotId _ =>
    s!"source_snapshot_id={sourceSnapshotId} capsule_id={capsuleId}"

def describe (kind payload : String) : String :=
  if payload = "" then kind else s!"{kind} ({payload})"

/-! ### Submission -/

structure SubmitError where
  reason : ErrorReason
  message : String
deriving DecidableEq, Repr

def SubmitError.display (refusal : SubmitError) : String :=
  s!"{refusal.reason.debug}: {refusal.message}"

inductive ClaimedSubmission where
  | submitted (op : OperationRow)
  | superseded
deriving DecidableEq, Repr

def internal (cause : String) : SubmitError := ⟨.unspecified, s!"internal: {cause}"⟩

def createSpec : OpPayload → Option InstanceSpec
  | .create spec | .fork spec .. | .restoreCapsule spec .. => some spec
  | _ => none

def lineageOf : OpPayload → Option Lineage
  | .fork _ _ _ lineage .. | .restoreCapsule _ _ _ lineage => some lineage
  | _ => none

/-- The guest token of the new row: minted, inherited from a fork's source, or none. -/
def guestTokenFor : OpPayload → NodeProg (Except SubmitError String)
  | .fork _ _ _ _ _ sourceGuestToken _ => return .ok sourceGuestToken
  | .create _ | .restoreCapsule .. => do
      match ← beyond .newGuestToken with
      | .ok token => return .ok token
      | .error cause => return .error (internal s!"reading /dev/urandom: {cause}")
  | _ => return .ok ""

/-- A fork carries its source's channel identity; any other new row is minted its own. -/
def identityMint (agent : Agent) (payload : OpPayload) (id : String) :
    Except String (Option Identity) :=
  match payload with
  | .fork _ _ _ _ _ _ (some identity) => .ok (some identity)
  | _ => agent.mintIdentity id

/-- The refusals a caller hears before anything is journaled. A name that cannot be looked up
is not refused. -/
def preflight (agent : Agent) (instanceId : String) : OpPayload → NodeProg (Option SubmitError)
  | .resume snapshotId true => do
      match ← resolveRestore agent instanceId snapshotId true with
      | (some _, .refuse reason why) =>
        return some ⟨reason, s!"{why}; require_memory was set, so this resume was refused " ++
          "rather than silently cold-booted. The instance keeps its current state — retry " ++
          "without require_memory to accept a cold boot"⟩
      | _ => return none
  | .createSnapshot (some name) => do
      match ← query (.snapshotNamed instanceId name) with
      | .ok (some existing) =>
        return some ⟨.snapshotNameConflict, s!"{instanceId} already has a snapshot named " ++
          s!"'{name}' ({existing.snapshotId}); names are unique per instance, so choose another " ++
          "name or delete that snapshot first"⟩
      | _ => return none
  | _ => return none

def submitArgs (agent : Agent) (kind : OpKind) (instanceId key : String) (payload : OpPayload)
    (claim : Option Claim) (opId guestToken : String) (createdAtMs : Int) : SubmitArgs where
  opId := opId
  kind := kind
  instanceId := instanceId
  idempotencyKey := key
  payload := payloadDescriptor payload
  state := .queued
  currentStep := ""
  createdAtMs := createdAtMs
  transitional := kind.states.1
  createSpec := createSpec payload
  runtime := agent.runtimeName
  guestToken := guestToken
  mintIdentity := identityMint agent payload
  claim := claim
  lineage := lineageOf payload
  plan := planTransition kind kind.states.1

def checkReplay (kind : OpKind) (instanceId : String) (payload : OpPayload)
    (original : OperationRow) : NodeProg (Except SubmitError ClaimedSubmission) := do
  if original.kind ≠ kind ∨ original.instanceId ≠ instanceId ∨
      original.payload ≠ payloadDescriptor payload then
    return .error ⟨.invalidSpec, "idempotency_key was already used for " ++
      s!"{describe original.kind.asStr original.payload} on {original.instanceId}; it cannot be " ++
      s!"reused for {describe kind.asStr (payloadDescriptor payload)} on {instanceId}"⟩
  match payload with
  | .create spec =>
    match ← query (.getInstance instanceId) with
    | .ok (some row) =>
      if row.spec ≠ spec then
        return .error ⟨.invalidSpec, "idempotency_key was already used to create " ++
          s!"{instanceId} with a different spec; a replay must repeat the original request"⟩
      else return .ok (.submitted original)
    | .ok none => return .ok (.submitted original)
    | .error cause => return .error (internal cause)
  | _ => return .ok (.submitted original)

/-- Announce an accepted submission and hand it to its executor. -/
def launch (kind : OpKind) (op : OperationRow) (payload : OpPayload) (recorded : InstanceState)
    (announce : String → List EventRow) : NodeProg (Except SubmitError ClaimedSubmission) := do
  Events.recordAll (announce op.opId)
  whenever (recorded = kind.states.1)
    (Events.stateChanged op.instanceId op.opId kind.states.1 none)
  spawn ⟨kind, op, payload, recorded⟩
  return .ok (.submitted op)

/-- Journal-first submission, with a deadline consumed in the same transaction. The caller's
events are announced for a fresh submission only. -/
def submitClaiming (agent : Agent) (kind : OpKind) (instanceId key : String)
    (payload : OpPayload) (claim : Option Claim) (announce : String → List EventRow) :
    NodeProg (Except SubmitError ClaimedSubmission) := do
  if key = "" then return .error ⟨.invalidSpec, "idempotency_key is required"⟩
  match ← guestTokenFor payload with
  | .error refusal => return .error refusal
  | .ok guestToken =>
    let opId ← freshUlid
    let createdAtMs ← clock
    match ← preflight agent instanceId payload with
    | some refusal => return .error refusal
    | none =>
      let args := submitArgs agent kind instanceId key payload claim opId guestToken createdAtMs
      match ← query (.submitAtomically args) with
      | .error cause => return .error (internal cause)
      | .ok (.replay original) => checkReplay kind instanceId payload original
      | .ok .conflict =>
        return .error ⟨.concurrentOperation, s!"an operation is already in flight for {instanceId}"⟩
      | .ok (.rejected message) => return .error ⟨.invalidSpec, message⟩
      | .ok .claimSuperseded => return .ok .superseded
      | .ok (.journaled recorded) =>
        launch kind (Journal.newOperation args) payload recorded announce

def submit (agent : Agent) (kind : OpKind) (instanceId key : String) (payload : OpPayload) :
    NodeProg (Except SubmitError OperationRow) := do
  match ← submitClaiming agent kind instanceId key payload none fun _ => [] with
  | .ok (.submitted op) => return .ok op
  | .ok .superseded =>
    return .error ⟨.concurrentOperation, "a claimless submission cannot be superseded"⟩
  | .error refusal => return .error refusal

end Barista.Node
