import Barista.Node.Ops

/-!
Contract: what the executor of an accepted operation does, and what a restart does
about the operations that had none to finish them.

Owns: the work of each payload, `execute`, `cancel` and crash recovery.
-/

namespace Barista.Node

open Foundation Fleet

def ForkMode.asStrName : ForkMode → String
  | unspecified => "FORK_MODE_UNSPECIFIED"
  | cow => "FORK_MODE_COW"
  | fullCopy => "FORK_MODE_FULL_COPY"

def mapRuntimeErr : RuntimeError → ErrorReason × String
  | .templateNotFound message => (.templateNotFound, message)
  | .substrateUnavailable message => (.substrateUnavailable, message)
  | .nameConflict message => (.snapshotNameConflict, message)
  | .capabilityMissing message => (.capabilityMissing, message)
  | .other message => (.unspecified, message)

def RuntimeError.display : RuntimeError → String
  | templateNotFound message => s!"template not found: {message}"
  | substrateUnavailable message => s!"substrate unavailable: {message}"
  | nameConflict message => s!"name already taken: {message}"
  | capabilityMissing message => s!"capability missing: {message}"
  | other message => s!"runtime failure: {message}"

/-! ### The work of an operation -/

/-- How the work went, and the downgrades it made on the way. -/
structure Work where
  result : Except (ErrorReason × String) Unit
  degraded : List String

namespace Work

def done : Work := ⟨.ok (), []⟩

def failed (reason : ErrorReason) (message : String) : Work := ⟨.error (reason, message), []⟩

def ofRuntime : Except RuntimeError Unit → Work
  | .ok () => done
  | .error cause => ⟨.error (mapRuntimeErr cause), []⟩

def after (messages : List String) (work : Work) : Work :=
  { work with degraded := messages ++ work.degraded }

end Work

def step (op : OperationRow) (name : String) : NodeProg Unit := do
  let _ ← query (.setOpStep op.opId name)
  Events.opProgress op.instanceId op.opId name

def degradeAll (op : OperationRow) : List String → NodeProg Unit
  | [] => return ()
  | message :: rest => do
      Events.degradation op.instanceId op.opId message
      degradeAll op rest

/-- Announce a downgrade and keep it for the operation's own record. -/
def degrade (op : OperationRow) (message : String) (work : Work) : NodeProg Work := do
  Events.degradation op.instanceId op.opId message
  return work.after [message]

def withRow (op : OperationRow) (vanished unreadable : String)
    (work : InstanceRow → NodeProg Work) : NodeProg Work := do
  match ← query (.getInstance op.instanceId) with
  | .ok (some row) => work row
  | .ok none => return .failed .unspecified vanished
  | .error cause => return .failed .unspecified s!"{unreadable}: {cause}"

def bootstrapOf (row : InstanceRow) : GuestBootstrap := ⟨row.guestToken, row.identity⟩

def runCreate (op : OperationRow) (spec : InstanceSpec) : NodeProg Work := do
  step op "runtime.create"
  withRow op s!"instance {op.instanceId} vanished from the journal before create"
    s!"could not read the guest token for {op.instanceId}"
    fun row => do return .ofRuntime (← runtime (.create spec (bootstrapOf row)))

def runStart (op : OperationRow) : NodeProg Work := do
  step op "runtime.start"
  withRow op s!"instance {op.instanceId} vanished from the journal before start"
    s!"could not read the spec for {op.instanceId}"
    fun row => do return .ofRuntime (← runtime (.start op.instanceId row.spec (bootstrapOf row)))

def runStop (op : OperationRow) (graceSeconds : Nat) : NodeProg Work := do
  step op "runtime.stop"
  return .ofRuntime (← runtime (.stop op.instanceId graceSeconds))

/-- Journal a capture under the keys in force on this node. -/
def recordSnapshot (agent : Agent) (id : String) (snapshot : SnapshotInfo) (name : String) :
    NodeProg (Except String Unit) := do
  let found ← query (.getInstance id)
  let createdAtMs ← clock
  query (.insertSnapshot {
    snapshotId := snapshot.snapshotId
    instanceId := id
    kind := snapshot.kind
    cpuClass := agent.cpuClass
    templateHash := (found.toOption.join.map fun row => agent.templateHash row.spec).getD ""
    runtimeBundleRef := agent.runtimeVersion
    tier := .local_
    createdAtMs := createdAtMs
    name := name })

/-- A pause whose capture cannot be journaled still succeeds, and says what it lost. -/
def recordPause (agent : Agent) (op : OperationRow) (snapshot : SnapshotInfo) : NodeProg Work := do
  step op "journal.snapshot"
  let recorded ← recordSnapshot agent op.instanceId snapshot ""
  let lost : List String := match recorded with
    | .ok () => []
    | .error cause => [s!"a snapshot was captured but could not be journaled ({cause}); it " ++
        "exists on the substrate and this node will not offer it for resume, so resuming this " ++
        "session will be a cold boot"]
  let cold : List String := if snapshot.kind = .memoryAndDisk then [] else
    ["paused without preserving memory: the runtime captured disk only, so resuming will be a " ++
      "cold boot"]
  degradeAll op (lost ++ cold)
  return Work.done.after (lost ++ cold)

def runPause (agent : Agent) (op : OperationRow) (requireMemory : Bool) : NodeProg Work := do
  step op "hook.pre_snapshot"
  let hook ← beyond (.preSnapshotHook op.instanceId)
  degradeAll op hook
  step op "runtime.pause"
  match ← runtime (.pause op.instanceId) with
  | .ok snapshot =>
    if requireMemory ∧ snapshot.kind ≠ .memoryAndDisk then
      return (Work.failed .capabilityMissing ("require_memory was set but the runtime captured " ++
        s!"\"{snapshot.kind.asStrName}\"; the instance's memory was not preserved")).after hook
    else return (← recordPause agent op snapshot).after hook
  | .error cause => return ⟨.error (mapRuntimeErr cause), hook⟩

def coldBoot (op : OperationRow) (why : String) (row : Option InstanceRow) : NodeProg Work := do
  step op "restore.cold_boot_fallback"
  let message := s!"resuming as a cold boot rather than from memory ({why}); the instance will " ++
    "start fresh and its in-memory state is gone"
  Events.degradation op.instanceId op.opId message
  match row with
  | some row =>
    return (Work.ofRuntime (← runtime (.start op.instanceId row.spec (bootstrapOf row)))).after
      [message]
  | none =>
    return (Work.failed .unspecified
      s!"instance {op.instanceId} vanished from the journal before its cold boot").after [message]

/-- Asking for the latest snapshot by id and asking for the latest are the same request. -/
def resumeTarget (row : Option InstanceRow) (snapshotId : Option String) : Option String :=
  if snapshotId = some ((row.map InstanceRow.latestSnapshotId).getD "") then none else snapshotId

def runResume (agent : Agent) (op : OperationRow) (snapshotId : Option String)
    (requireMemory : Bool) (epoch : Nat) : NodeProg Work := do
  step op "restore.preconditions"
  let (row, decision) ← resolveRestore agent op.instanceId snapshotId requireMemory
  match decision with
  | .fromMemory => do
      step op "runtime.resume"
      match ← runtime (.resume op.instanceId (resumeTarget row snapshotId)) with
      | .ok () => do
          let duties ← beyond (.restoreDuties op.instanceId epoch)
          degradeAll op duties
          return Work.done.after duties
      | .error cause => return ⟨.error (mapRuntimeErr cause), []⟩
  | .coldBoot _ why => coldBoot op why row
  | .refuse reason why =>
    return .failed reason s!"{why}; require_memory was set, so this was not silently cold-booted"

/-- A capture the journal cannot record is deleted again. -/
def compensateSnapshot (op : OperationRow) (snapshot : SnapshotInfo) (cause : String) :
    NodeProg Work := do
  step op "compensate.delete_snapshot"
  let failure := Work.failed .unspecified (s!"the snapshot was captured but could not be " ++
    s!"journaled ({cause}); it was deleted from the substrate again rather than left as an " ++
    "artifact this node cannot describe")
  match ← runtime (.deleteSnapshot snapshot.snapshotId) with
  | .ok () => return failure
  | .error undo =>
    degrade op (s!"snapshot '{snapshot.snapshotId}' was captured, could not be journaled " ++
      s!"({cause}), and could not be deleted again ({undo.display}); it exists on the " ++
      "substrate, is absent from this node's journal, and has to be removed there") failure

/-- A freeze is journaled before the capture, and named in its step. -/
def announceCapture (op : OperationRow) (froze : Bool) : NodeProg Unit := do
  if froze then
    let _ ← query (.setOpFrozeWorkload op.opId)
    step op "runtime.create_snapshot.frozen"
  else step op "runtime.create_snapshot"

def runCreateSnapshot (agent : Agent) (op : OperationRow) (name : Option String)
    (recorded : InstanceState) : NodeProg Work := do
  step op "hook.pre_snapshot"
  let hook ← beyond (.preSnapshotHook op.instanceId)
  degradeAll op hook
  announceCapture op (recorded = .checkpointing ∧ agent.liveCheckpoint = false)
  match ← runtime (.createSnapshot op.instanceId name) with
  | .ok snapshot => do
      step op "journal.snapshot"
      match ← recordSnapshot agent op.instanceId snapshot (name.getD "") with
      | .ok () => return Work.done.after hook
      | .error cause => return (← compensateSnapshot op snapshot cause).after hook
  | .error cause => return ⟨.error (mapRuntimeErr cause), hook⟩

def runDeleteSnapshot (op : OperationRow) (snapshotId : String) : NodeProg Work := do
  step op "runtime.delete_snapshot"
  match ← runtime (.deleteSnapshot snapshotId) with
  | .ok () => do
      step op "journal.delete_snapshot"
      match ← query (.deleteSnapshot snapshotId) with
      | .ok () => return .done
      | .error cause =>
        degrade op (s!"snapshot '{snapshotId}' was deleted from the substrate but its journal " ++
          s!"row could not be removed ({cause}); this node still lists a snapshot whose bytes " ++
          "are gone — repeat DeleteSnapshot to finish it")
          (.failed .unspecified s!"could not remove the journal row for {snapshotId}: {cause}")
  | .error cause =>
    return .failed (mapRuntimeErr cause).1
      s!"deleting snapshot {snapshotId}: {(mapRuntimeErr cause).2}"

/-- Remove one snapshot of a destroyed instance, substrate first, with what it left behind. -/
def forgetSnapshot (snapshotId : String) : NodeProg (List String) := do
  match ← runtime (.deleteSnapshot snapshotId) with
  | .error cause =>
    return [s!"snapshot '{snapshotId}' outlived the instance it belonged to: the substrate would " ++
      s!"not delete it ({cause.display}), so its journal row was kept and DeleteSnapshot on it " ++
      "is the retry"]
  | .ok () =>
    match ← query (.deleteSnapshot snapshotId) with
    | .error cause =>
      return [s!"snapshot '{snapshotId}' was deleted from the substrate but its journal row " ++
        s!"could not be removed ({cause}); this node still lists a snapshot whose bytes are gone"]
    | .ok () => return []

/-- One snapshot the substrate will not release does not shield the others. -/
def forgetEach (op : OperationRow) : List SnapshotRow → NodeProg (List String)
  | [] => return []
  | snapshot :: rest => do
      let left ← forgetSnapshot snapshot.snapshotId
      degradeAll op left
      return left ++ (← forgetEach op rest)

def forgetSnapshots (op : OperationRow) : NodeProg (List String) := do
  match ← query (.listSnapshots op.instanceId) with
  | .ok snapshots => forgetEach op snapshots
  | .error cause =>
    let message := s!"this instance's snapshots could not be listed ({cause}), so none of them " ++
      "were removed with it; they are still in the journal and can be deleted by id"
    degradeAll op [message]
    return [message]

def runDestroy (op : OperationRow) (keepSnapshots : Bool) : NodeProg Work := do
  step op "runtime.destroy"
  match ← runtime (.destroy op.instanceId) with
  | .ok () =>
    if keepSnapshots then return .done
    else do
      step op "snapshots.forget"
      return Work.done.after (← forgetSnapshots op)
  | .error cause => return ⟨.error (mapRuntimeErr cause), []⟩

/-- A full copy froze the source; the operation says so. -/
def forked (op : OperationRow) (source snapshotId : String) (outcome : ForkOutcome) :
    NodeProg Work := do
  let _ ← query (.setOpForkMode op.opId outcome.mode)
  let frozen : List String := if outcome.frozeSource then
    [s!"fork used \"{outcome.mode.asStrName}\": the source {source} was frozen while its state " ++
      "was copied. Require CoW to fail closed instead of accepting a freeze"] else []
  degradeAll op frozen
  Events.lineageRecorded op.instanceId op.opId
    s!"forked from snapshot {snapshotId} of {source} (\"{outcome.mode.asStrName}\")"
  return Work.done.after frozen

def runFork (op : OperationRow) (source snapshotId : String) (requireCow : Bool) :
    NodeProg Work := do
  step op "runtime.fork"
  withRow op s!"forked target {op.instanceId} vanished from the journal before its fork"
    s!"could not read the target row for {op.instanceId}"
    fun row => do
      match ← runtime (.fork source snapshotId row.spec (bootstrapOf row) requireCow) with
      | .ok outcome => forked op source snapshotId outcome
      | .error cause => return ⟨.error (mapRuntimeErr cause), []⟩

def runRestoreCapsule (op : OperationRow) (capsuleId snapshotId : String) : NodeProg Work := do
  step op "capsule.read_objects"
  match ← beyond (.loadCapsuleObjects capsuleId) with
  | .error (reason, message) => return .failed reason message
  | .ok () => do
      step op "runtime.restore_from_objects"
      withRow op s!"restore target {op.instanceId} vanished from the journal before its restore"
        s!"could not read the target row for {op.instanceId}"
        fun row => do
          match ← runtime (.restoreFromObjects capsuleId row.spec (bootstrapOf row)) with
          | .ok () => do
              Events.lineageRecorded op.instanceId op.opId
                s!"restored from imported capsule {capsuleId} (snapshot {snapshotId})"
              return .done
          | .error cause => return ⟨.error (mapRuntimeErr cause), []⟩

def runPayload (agent : Agent) (op : OperationRow) (recorded : InstanceState) (epoch : Nat) :
    OpPayload → NodeProg Work
  | .create spec => runCreate op spec
  | .start => runStart op
  | .stop graceSeconds => runStop op graceSeconds
  | .pause requireMemory => runPause agent op requireMemory
  | .resume snapshotId requireMemory => runResume agent op snapshotId requireMemory epoch
  | .createSnapshot name => runCreateSnapshot agent op name recorded
  | .deleteSnapshot snapshotId => runDeleteSnapshot op snapshotId
  | .destroy keepSnapshots => runDestroy op keepSnapshots
  | .fork _ source snapshotId _ requireCow _ _ => runFork op source snapshotId requireCow
  | .restoreCapsule _ capsuleId snapshotId _ => runRestoreCapsule op capsuleId snapshotId

/-! ### The executor -/

/-- Issue an execution epoch and bind it, for the kinds that begin a run. -/
def rotateEpoch (kind : OpKind) (id : String) : NodeProg (Except String (Option Nat)) := do
  if kind = .start ∨ kind = .resume ∨ kind = .fork then
    match ← query .issueExecutionEpoch with
    | .error cause =>
      return .error s!"an execution epoch could not be issued before {kind.asStr}: {cause}"
    | .ok epoch =>
      match ← query (.setInstanceEpoch id epoch) with
      | .ok () => return .ok (some epoch)
      | .error cause =>
        return .error
          s!"execution epoch {epoch} could not be bound before {kind.asStr}: {cause}"
  else return .ok none

/-- `i64::saturating_mul(1000).saturating_add(now)`, from an unsigned TTL. -/
def ttlDeadlineMs (ttlSeconds : Nat) (nowMs : Int) : Int :=
  let saturate (value : Int) : Int := max (-2 ^ 63) (min (2 ^ 63 - 1) value)
  saturate (saturate (saturate ttlSeconds * 1000) + nowMs)

def stopReasonOf (kind : OpKind) (id : String) : NodeProg StopReason := do
  let requested := kind == .stop
  match ← runtime (.stopStatus id) with
  | .ok (some status) => return ⟨requested, status.exitCode, status.detail⟩
  | .ok none => return ⟨requested, none, ""⟩
  | .error cause =>
    return ⟨requested, none, s!"the substrate could not be asked why it stopped ({cause})"⟩

/-- Where an operation that moved the instance finishes; one that moved nothing finishes
where it started. -/
def successState (kind : OpKind) (recorded : InstanceState) : InstanceState :=
  if recorded = kind.states.1 then kind.states.2 else recorded

/-- Where the instance lands. A snapshot verb that fails says nothing about its instance. -/
def settledState (kind : OpKind) (recorded : InstanceState)
    (result : Except (ErrorReason × String) Unit) : InstanceState :=
  match result with
  | .ok () => successState kind recorded
  | .error _ => if kind.touchesInstanceState then .failed else successState kind recorded

/-- The TTL armed on the way into `running`. -/
def deadlineFor (id : String) (settled : InstanceState) : NodeProg (Option Int) := do
  if settled = .running then
    match ← query (.getInstance id) with
    | .ok (some row) =>
      if 0 < row.spec.ttlSeconds then
        return some (ttlDeadlineMs row.spec.ttlSeconds (← clock))
      else return none
    | _ => return none
  else return none

/-- The stop reason a finalize writes: asked of the substrate for a stop that landed, carried
back unchanged by a verb that moved nothing. -/
def stopReasonFor (kind : OpKind) (id : String) (settled : InstanceState) :
    NodeProg (Option StopReason) := do
  if settled = .stopped then
    if kind.touchesInstanceState then return some (← stopReasonOf kind id)
    else
      match ← query (.getInstance id) with
      | .ok (some row) => return row.stopReason
      | _ => return none
  else return none

def reportUnavailable (agent : Agent) (op : OperationRow) (reason : ErrorReason)
    (message : String) (work : Work) : NodeProg Work := do
  if reason = .substrateUnavailable then
    let outage := s!"the '{agent.runtimeName}' substrate is not answering ({message}); " ++
      "mutations fail until it returns, and instances already running are unaffected and " ++
      "still reported RUNNING"
    Events.degradation op.instanceId op.opId outage
    return { work with degraded := work.degraded ++ [outage] }
  else return work

/-- What a failed operation undoes and reports before its finalize. -/
def compensate (agent : Agent) (kind : OpKind) (op : OperationRow) (work : Work) :
    NodeProg Work := do
  match work.result with
  | .ok () => return work
  | .error (reason, message) => do
      whenever (kind = .create ∨ kind = .fork) (discard (runtime (.removeOrphan op.instanceId)))
      reportUnavailable agent op reason message work

def finishArgs (op : OperationRow) (settled : InstanceState) (deadline : Option Int)
    (stopReason : Option StopReason) (work : Work) : FinishArgs where
  opId := op.opId
  instanceId := op.instanceId
  state := settled
  ttlDeadlineMs := deadline
  stopReason := stopReason
  clearReady := settled ≠ .running
  degraded := "; ".intercalate work.degraded
  outcome := work.result

/-- The events and the trailing stamp of a finalize that was journaled. -/
def announceFinish (op : OperationRow) (settled : InstanceState) (stopReason : Option StopReason)
    (epoch : Option Nat) (succeeded : Bool) (finalized : Finalized) : NodeProg Unit := do
  whenever finalized.readinessChanged (Events.readyChanged op.instanceId false)
  Events.stateChanged op.instanceId op.opId settled stopReason
  stampLeaseState op.instanceId
  match epoch with
  | some epoch =>
    whenever succeeded (Events.epochRotated op.instanceId op.opId
      (s!"execution epoch {epoch} issued for this run; grants bound to an earlier epoch are " ++
        "revoked"))
  | none => return ()

/-- Settle the operation and its instance in one transaction. -/
def finalize (agent : Agent) (kind : OpKind) (op : OperationRow) (recorded : InstanceState)
    (epoch : Option Nat) (work : Work) : NodeProg Unit := do
  step op "finalize"
  let settled := settledState kind recorded work.result
  let deadline ← deadlineFor op.instanceId settled
  let stopReason ← stopReasonFor kind op.instanceId settled
  let work ← compensate agent kind op work
  match ← query (.finishOperation (finishArgs op settled deadline stopReason work)) with
  | .ok finalized =>
    announceFinish op settled stopReason epoch work.result.isOk finalized
  | .error cause =>
    Events.degradation op.instanceId op.opId ("the journal could not record this operation's " ++
      s!"outcome ({cause}); the runtime acted but the node cannot describe it, so the " ++
      "operation is left in flight for crash recovery")

/-- A run whose epoch could not be rotated fails before the runtime is called. -/
def failClosed (op : OperationRow) (message : String) : NodeProg Unit := do
  step op "finalize"
  let args : FinishArgs :=
    ⟨op.opId, op.instanceId, .failed, none, none, true, "", .error (.unspecified, message)⟩
  match ← query (.finishOperation args) with
  | .ok finalized => announceFinish op .failed none none false finalized
  | .error _ => return ()

/-- Execute an accepted operation: rotate the epoch, give up the claim to be running, act,
settle. -/
def execute (agent : Agent) (executor : Executor) : NodeProg Unit := do
  let op := executor.op
  let rotated ← rotateEpoch executor.kind op.instanceId
  stampLeaseState op.instanceId
  match rotated with
  | .error message => failClosed op message
  | .ok epoch => do
      let work ← runPayload agent op executor.recorded (epoch.getD 0) executor.payload
      finalize agent executor.kind op executor.recorded epoch work

def cancel (opId instanceId reason : String) : NodeProg (Except String Unit) := do
  match ← query (.finishOpCanceled opId reason) with
  | .ok () => do
      Events.opProgress instanceId opId s!"canceled: {reason}"
      return .ok ()
  | .error cause => return .error cause

/-! ### Crash recovery -/

/-- `Db::set_instance_state`: the state, then what entering it brings, each a statement of its
own. The connection is held throughout, but a crash may fall between two of them. -/
def setInstanceState (id : String) (state : InstanceState) : NodeProg (Except String Unit) := do
  match ← query (.setInstanceState id state) with
  | .error cause => return .error cause
  | .ok nowMs =>
    if state = .running then query (.setRunEpoch id nowMs)
    else if state = .destroyed then query (.forgetCredentials id)
    else return .ok ()

/-- Resolve one instance a crash left in a transitional state. -/
def resolveInstance (row : InstanceRow) : NodeProg (Except String Unit) := do
  let id := row.instanceId
  match row.state with
  | .stopping =>
    match ← runtime (.stop id 0) with
    | .ok () => settleInstance id .stopped
    | .error cause => do
        Events.degradation id "" (s!"crash recovery could not stop the sandbox " ++
          s!"({cause.display}); recorded FAILED rather than STOPPED so the sandbox stays reapable")
        settleInstance id .failed
  | .checkpointing =>
    match ← settleInstance id .running with
    | .error cause => return .error cause
    | .ok () => do
        Events.degradation id "" ("the node restarted while a snapshot of this instance was " ++
          "being captured; the instance itself is untouched and is RUNNING again, but whether " ++
          "the snapshot was written is unknown — it is not in the journal, so this node will " ++
          "not offer it for resume, and any leftover on the substrate has to be removed there")
        return .ok ()
  | .destroying => do
      let _ ← runtime (.removeOrphan id)
      settleInstance id .destroyed
  | _ => do
      let _ ← runtime (.removeOrphan id)
      settleInstance id .failed
where
  /-- Journal where an instance ended up, and say so. -/
  settleInstance (id : String) (state : InstanceState) : NodeProg (Except String Unit) := do
    match ← setInstanceState id state with
    | .error cause => return .error cause
    | .ok () => do
        Events.stateChanged id "" state none
        return .ok ()

/-- An error of the journal ends recovery, and with it the boot. -/
def resolveInstances : List InstanceRow → NodeProg (Except String Unit)
  | [] => return .ok ()
  | row :: rest => do
      match ← resolveInstance row with
      | .error cause => return .error cause
      | .ok () => resolveInstances rest

def announceFailed : List OperationRow → NodeProg Unit
  | [] => return ()
  | op :: rest => do
      Events.opProgress op.instanceId op.opId "failed by crash recovery"
      announceFailed rest

/-- Crash recovery after the in-flight operations were failed. The sweep of unknown
sandboxes that ends it touches only the substrate and is left out. -/
def recoverOps (failed : List OperationRow) : NodeProg (Except String Unit) := do
  announceFailed failed
  match ← query .listInstances with
  | .error cause => return .error cause
  | .ok rows => resolveInstances (rows.filter fun row => row.state.isTransitional)

end Barista.Node
