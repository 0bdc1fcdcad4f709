import Barista.Node.Ownership

/-!
Contract: every call a running node makes on its journal, as one type of request.

Owns: the writes outside submissions and finalizes (instance rows, execution epochs,
deadlines, snapshots, `fleet_leases`, events), `Query`, what each query does, and the inversion of a query
by the table it writes.
-/

namespace Barista.Node

open Foundation

namespace Journal

/-! ### Instances -/

/-- Move an instance to a state: the first statement of `set_instance_state`. -/
def setInstanceState (journal : Journal) (id : String) (state : InstanceState) (nowMs : Int) :
    Journal :=
  journal.updateInstance id (fun row => { row with state := state, updatedAtMs := nowMs })
    (entering_keeps state nowMs)

/-- The statement that follows a move to `running`: a run epoch begins. -/
def setRunEpoch (journal : Journal) (id : String) (nowMs : Int) : Journal :=
  journal.updateInstance id (fun row => { row with runEpochMs := some nowMs }) fun _ => rfl

/-- The statement that follows a move to `destroyed`: the credentials are forgotten. -/
def forgetCredentials (journal : Journal) (id : String) : Journal :=
  journal.updateInstance id (fun row => { row with guestToken := "", identity := none })
    fun _ => rfl

/-- Set the readiness bool, answering whether it changed. -/
def setInstanceReady (journal : Journal) (id : String) (ready : Bool) (nowMs : Int) :
    Bool × Journal :=
  ((journal.getInstance id).any fun row => row.ready != ready, journal.updateInstance id
      (fun row => if row.ready = ready then row
        else { row with ready := ready, updatedAtMs := nowMs })
      fun row => by split <;> rfl)

def setTtlDeadline (journal : Journal) (id : String) (deadlineMs : Option Int) (nowMs : Int) :
    Journal :=
  journal.updateInstance id
    (fun row => { row with ttlDeadlineMs := deadlineMs, updatedAtMs := nowMs }) fun _ => rfl

def setWakeAt (journal : Journal) (id : String) (wakeAtMs : Option Int) (nowMs : Int) : Journal :=
  journal.updateInstance id
    (fun row => { row with wakeAtMs := wakeAtMs, updatedAtMs := nowMs }) fun _ => rfl

/-- Take a due wake alarm on its own, answering whether it was still the one armed. -/
def claimWake (journal : Journal) (id : String) (atMs nowMs : Int) : Bool × Journal :=
  match journal.takeDeadline id (.wake atMs) nowMs with
  | some claimed => (true, claimed)
  | none => (false, journal)

def issueExecutionEpoch (journal : Journal) : Nat × Journal :=
  (journal.nextExecutionEpoch + 1,
    { journal with nextExecutionEpoch := journal.nextExecutionEpoch + 1 })

def setInstanceEpoch (journal : Journal) (id : String) (epoch : Nat) (nowMs : Int) :
    Except String Journal :=
  if (journal.getInstance id).isSome then
    .ok (journal.updateInstance id
      (fun row => { row with executionEpoch := epoch, updatedAtMs := nowMs }) fun _ => rfl)
  else .error s!"instance {id} is absent, so execution epoch {epoch} was not bound"

def listInstances (journal : Journal) : List InstanceRow :=
  journal.instances.rows.insertionSort fun left right => left.createdAtMs ≤ right.createdAtMs

def stateOf (journal : Journal) (id : String) : Option InstanceState :=
  (journal.getInstance id).map InstanceRow.state

def running (journal : Journal) (id : String) : Bool := journal.stateOf id = some .running

/-! ### Operations -/

def setOpFrozeWorkload (journal : Journal) (opId : String) : Journal :=
  journal.updateOperation opId (fun _ => true) (fun op => { op with frozeWorkload := true })
    fun _ => ⟨rfl, rfl⟩

def setOpForkMode (journal : Journal) (opId : String) (mode : ForkMode) : Journal :=
  journal.updateOperation opId (fun _ => true) (fun op => { op with actualForkMode := mode })
    fun _ => ⟨rfl, rfl⟩

/-! ### Snapshots -/

/-- Record a snapshot and point its instance at it as its latest. -/
def insertSnapshot (journal : Journal) (row : SnapshotRow) (nowMs : Int) : Journal :=
  { journal.updateInstance row.instanceId
      (fun target => { target with latestSnapshotId := row.snapshotId, updatedAtMs := nowMs })
      fun _ => rfl with
    snapshots := journal.snapshots.replace row }

/-- Forget a snapshot, and clear any instance still pointing at it. -/
def deleteSnapshot (journal : Journal) (snapshotId : String) : Journal :=
  { journal with
    snapshots := journal.snapshots.delete fun row => row.snapshotId == snapshotId
    instances := journal.instances.update (fun row => row.latestSnapshotId == snapshotId)
      (fun row => { row with latestSnapshotId := "" }) (by simp) }

/-- What deleting a capsule does here: where the capsule is registered, the snapshot row its import
left goes with it; an id that is not is left at that. -/
def deleteCapsule (journal : Journal) (capsuleId : String) (registered : Bool) : Journal :=
  { journal with
    snapshots :=
      if registered then
        journal.snapshots.delete fun row => row.snapshotId == "capsule:" ++ capsuleId
      else journal.snapshots }

/-! ### Fleet leases -/

def updateLease (journal : Journal) (name : String) (set : HeldLeaseRow → HeldLeaseRow)
    (keeps : ∀ row, (set row).name = row.name) : Journal :=
  { journal with
    leases := journal.leases.update (fun row => row.name == name) set (by simpa using keeps) }

theorem mem_updateLease {journal : Journal} {name : String} {set : HeldLeaseRow → HeldLeaseRow}
    {keeps : ∀ row, (set row).name = row.name} {row : HeldLeaseRow} :
    row ∈ (journal.updateLease name set keeps).leases.rows ↔
      ∃ old ∈ journal.leases.rows, row = if old.name = name then set old else old := by
  rw [updateLease, Table.mem_update]
  simp only [beq_iff_eq]

/-- Record that this node holds a name. A row that is already there keeps its `fencing`. -/
def holdLease (journal : Journal) (name : String) (epoch : Nat) (instanceId : String)
    (nowMs : Int) : Journal :=
  match journal.leases.insert? ⟨name, epoch, instanceId, false, nowMs⟩ with
  | some leases => { journal with leases := leases }
  | none =>
    journal.updateLease name (fun row => { row with epoch := epoch, instanceId := instanceId })
      fun _ => rfl

def setLeaseInstance (journal : Journal) (name instanceId : String) : Journal :=
  journal.updateLease name (fun row => { row with instanceId := instanceId }) fun _ => rfl

def markLeaseFencing (journal : Journal) (name : String) : Journal :=
  journal.updateLease name (fun row => { row with fencing := true }) fun _ => rfl

def releaseLease (journal : Journal) (name : String) : Journal :=
  { journal with leases := journal.leases.delete fun row => row.name == name }

/-! ### Events -/

/-- Append an event, at the moment the journal takes it. -/
def insertEvent (journal : Journal) (event : EventRow) (nowMs : Int) : Journal :=
  { journal with events := journal.events ++ [{ event with atMs := nowMs }] }

end Journal

/-! ### Queries -/

inductive Query where
  | getInstance (id : String)
  | listInstances
  | heldLeases
  | submitAtomically (args : SubmitArgs)
  | setOpStep (opId step : String)
  | setOpFrozeWorkload (opId : String)
  | setOpForkMode (opId : String) (mode : ForkMode)
  | finishOpCanceled (opId reason : String)
  | finishOperation (args : FinishArgs)
  | setInstanceState (id : String) (state : InstanceState)
  | setRunEpoch (id : String) (nowMs : Int)
  | forgetCredentials (id : String)
  | setInstanceReady (id : String) (ready : Bool)
  | setTtlDeadline (id : String) (deadlineMs : Option Int)
  | setWakeAt (id : String) (wakeAtMs : Option Int)
  | claimWake (id : String) (atMs : Int)
  | issueExecutionEpoch
  | setInstanceEpoch (id : String) (epoch : Nat)
  | holdLease (name : String) (epoch : Nat) (instanceId : String)
  | setLeaseInstance (name instanceId : String)
  | markLeaseFencing (name : String)
  | releaseLease (name : String)
  | findOpByIdempotencyKey (key : String)
  | getSnapshot (snapshotId : String)
  | snapshotNamed (id name : String)
  | listSnapshots (id : String)
  | insertSnapshot (row : SnapshotRow)
  | deleteSnapshot (snapshotId : String)
  | deleteCapsule (capsuleId : String) (registered : Bool)
  | insertEvent (event : EventRow)

namespace Query

abbrev Answer : Query → Type
  | getInstance _ => Option InstanceRow
  | listInstances => List InstanceRow
  | heldLeases => List HeldLeaseRow
  | submitAtomically _ => Submission
  | finishOperation _ => Finalized
  | issueExecutionEpoch => Nat
  | setInstanceState _ _ => Int
  | setInstanceReady _ _ | claimWake _ _ => Bool
  | findOpByIdempotencyKey _ => Option OperationRow
  | getSnapshot _ | snapshotNamed _ _ => Option SnapshotRow
  | listSnapshots _ => List SnapshotRow
  | _ => Unit

/-- What a query answers and leaves behind; an error has written nothing. A move of an instance
answers with the clock reading it wrote. -/
def run : (query : Query) → Int → Journal → Except String (query.Answer × Journal)
  | getInstance id, _, journal => .ok (journal.getInstance id, journal)
  | listInstances, _, journal => .ok (journal.listInstances, journal)
  | heldLeases, _, journal => .ok (journal.heldLeases, journal)
  | submitAtomically args, nowMs, journal => journal.submitAtomically args nowMs
  | setOpStep opId step, _, journal => .ok ((), journal.setOpStep opId step)
  | setOpFrozeWorkload opId, _, journal => .ok ((), journal.setOpFrozeWorkload opId)
  | setOpForkMode opId mode, _, journal => .ok ((), journal.setOpForkMode opId mode)
  | finishOpCanceled opId reason, nowMs, journal =>
    (journal.finishOpCanceled opId reason nowMs).map ((), ·)
  | finishOperation args, nowMs, journal => journal.finishOperation args nowMs
  | setInstanceState id state, nowMs, journal =>
    .ok (nowMs, journal.setInstanceState id state nowMs)
  | setRunEpoch id nowMs, _, journal => .ok ((), journal.setRunEpoch id nowMs)
  | forgetCredentials id, _, journal => .ok ((), journal.forgetCredentials id)
  | setInstanceReady id ready, nowMs, journal => .ok (journal.setInstanceReady id ready nowMs)
  | setTtlDeadline id deadlineMs, nowMs, journal =>
    .ok ((), journal.setTtlDeadline id deadlineMs nowMs)
  | setWakeAt id wakeAtMs, nowMs, journal => .ok ((), journal.setWakeAt id wakeAtMs nowMs)
  | claimWake id atMs, nowMs, journal => .ok (journal.claimWake id atMs nowMs)
  | issueExecutionEpoch, _, journal => .ok journal.issueExecutionEpoch
  | setInstanceEpoch id epoch, nowMs, journal =>
    (journal.setInstanceEpoch id epoch nowMs).map ((), ·)
  | holdLease name epoch instanceId, nowMs, journal =>
    .ok ((), journal.holdLease name epoch instanceId nowMs)
  | setLeaseInstance name instanceId, _, journal =>
    .ok ((), journal.setLeaseInstance name instanceId)
  | markLeaseFencing name, _, journal => .ok ((), journal.markLeaseFencing name)
  | releaseLease name, _, journal => .ok ((), journal.releaseLease name)
  | findOpByIdempotencyKey key, _, journal => .ok (journal.findOpByIdempotencyKey key, journal)
  | getSnapshot snapshotId, _, journal => .ok (journal.getSnapshot snapshotId, journal)
  | snapshotNamed id name, _, journal => .ok (journal.snapshotNamed id name, journal)
  | listSnapshots id, _, journal => .ok (journal.listSnapshots id, journal)
  | insertSnapshot row, nowMs, journal => .ok ((), journal.insertSnapshot row nowMs)
  | deleteSnapshot snapshotId, _, journal => .ok ((), journal.deleteSnapshot snapshotId)
  | deleteCapsule capsuleId registered, _, journal =>
    .ok ((), journal.deleteCapsule capsuleId registered)
  | insertEvent event, nowMs, journal => .ok ((), journal.insertEvent event nowMs)

def finishes (opId : String) : Query → Prop
  | finishOperation args => args.opId = opId
  | _ => False

def movesInstance : Query → Bool
  | submitAtomically _ | finishOperation _ | setInstanceState .. => true
  | _ => false

def isLeaseRow : Query → Bool
  | holdLease .. | setLeaseInstance .. | markLeaseFencing _ | releaseLease _ => true
  | _ => false

def isSnapshotRow : Query → Bool
  | insertSnapshot _ | deleteSnapshot _ | deleteCapsule .. => true
  | _ => false

end Query

/-! ### What a query can do to the operations -/

/-- How one row of `operations` may change: it stays the operation it is, and takes no claim. -/
structure OpStep (old new : OperationRow) : Prop where
  opId : new.opId = old.opId
  instanceId : new.instanceId = old.instanceId
  kind : new.kind = old.kind
  key : new.idempotencyKey = old.idempotencyKey
  payload : new.payload = old.payload
  noneTaken : new.executorActive = true → old.executorActive = true
  noneParked : new.state = .awaitingInput → old.state = .awaitingInput

theorem OpStep.refl (op : OperationRow) : OpStep op op := ⟨rfl, rfl, rfl, rfl, rfl, id, id⟩

/-- Every row changes in place, and a claim is given up only where `yields` allows it; rows are
added only as `adds` allows. -/
def Journal.Evolves (journal next : Journal) (yields adds : OperationRow → Prop) : Prop :=
  ∃ (change : OperationRow → OperationRow) (added : List OperationRow),
    next.operations.rows = journal.operations.rows.map change ++ added ∧
    (∀ op ∈ journal.operations.rows, OpStep op (change op) ∧
      (op.executorActive = true → (change op).executorActive = true ∨ yields op)) ∧
    ∀ op ∈ added, adds op

namespace Journal

variable {journal next : Journal} {yields adds : OperationRow → Prop}

theorem Evolves.same (same : next.operations = journal.operations) :
    journal.Evolves next yields adds :=
  ⟨id, [], by simp [same], fun op _ => ⟨.refl op, .inl⟩, by simp⟩

theorem Evolves.update {matching : OperationRow → Bool} {set : OperationRow → OperationRow}
    (written : next.operations.rows = journal.operations.rows.map fun op => if matching op
      then set op else op)
    (kept : ∀ op ∈ journal.operations.rows, matching op = true → OpStep op (set op) ∧
      (op.executorActive = true → (set op).executorActive = true ∨ yields op)) :
    journal.Evolves next yields adds := by
  refine ⟨fun op => if matching op then set op else op, [], by simpa using written, ?_, by simp⟩
  intro op member
  by_cases hit : matching op = true
  · simpa [hit] using kept op member hit
  · simpa [hit] using ⟨OpStep.refl op, fun active => .inl active⟩

theorem Evolves.finishOperation {args : FinishArgs} {nowMs : Int} {finalized : Finalized}
    (finished : journal.finishOperation args nowMs = .ok (finalized, next)) :
    journal.Evolves next (fun op => op.opId = args.opId) adds := by
  rcases finishOperation_cases finished with ⟨-, rfl⟩ | ⟨-, -, -, rfl⟩
  · refine .update rfl fun op _ hit => ?_
    simp only [Bool.and_eq_true, beq_iff_eq] at hit
    refine ⟨?_, fun _ => .inr hit.1⟩
    rcases args.outcome with ⟨reason, message⟩ | ⟨⟩ <;>
      exact ⟨rfl, rfl, rfl, rfl, rfl, nofun, nofun⟩
  · refine .update rfl fun op _ hit => ?_
    simp only [Bool.and_eq_true, beq_iff_eq] at hit
    exact ⟨⟨rfl, rfl, rfl, rfl, rfl, nofun, id⟩, fun _ => .inr hit.1⟩

theorem Evolves.submitAtomically {args : SubmitArgs} {nowMs : Int} {submission : Submission}
    (submitted : journal.submitAtomically args nowMs = .ok (submission, next)) :
    journal.Evolves next yields fun op => op = newOperation args ∧
      journal.hasInflightOp args.instanceId = false ∧
      (∃ recorded, submission = .journaled recorded) ∧
      ∀ old ∈ journal.operations.rows, old.opId ≠ args.opId := by
  rcases submitAtomically_cases submitted with ⟨rfl, -⟩ | ⟨recorded, _, rfl, -⟩
  · exact .same rfl
  · obtain ⟨-, idle, appended, fresh, -⟩ := submitAtomically_journaled submitted
    refine ⟨id, [newOperation args], by simpa using appended, fun op _ => ⟨.refl op, .inl⟩, ?_⟩
    intro op member
    exact ⟨List.mem_singleton.mp member, idle, ⟨recorded, rfl⟩, fresh⟩

end Journal

variable {next : Journal}

theorem mapped_ok {result : Except String Journal} {answer : Unit}
    (mapped : result.map (((), ·) : Journal → Unit × Journal) = .ok (answer, next)) :
    result = .ok next := by
  cases result with
  | error cause => cases mapped
  | ok journal =>
    cases mapped
    rfl

variable {journal : Journal} {nowMs : Int}

theorem Journal.setInstanceEpoch_cases {id : String} {epoch : Nat}
    (bound : journal.setInstanceEpoch id epoch nowMs = .ok next) :
    next = journal.updateInstance id
      (fun row => { row with executionEpoch := epoch, updatedAtMs := nowMs }) fun _ => rfl := by
  unfold setInstanceEpoch at bound
  split at bound
  · cases bound
    rfl
  · cases bound

theorem Journal.holdLease_frame (journal : Journal) (name : String) (epoch : Nat)
    (instanceId : String) (nowMs : Int) :
    (journal.holdLease name epoch instanceId nowMs).operations = journal.operations ∧
      (journal.holdLease name epoch instanceId nowMs).instances = journal.instances ∧
      (journal.holdLease name epoch instanceId nowMs).events = journal.events ∧
      (journal.holdLease name epoch instanceId nowMs).snapshots = journal.snapshots := by
  unfold holdLease
  split <;> exact ⟨rfl, rfl, rfl, rfl⟩

theorem Journal.claimWake_cases (journal : Journal) (id : String) (atMs nowMs : Int) :
    ((journal.claimWake id atMs nowMs).1 = true ∧
        journal.takeDeadline id (.wake atMs) nowMs = some (journal.claimWake id atMs nowMs).2) ∨
      ((journal.claimWake id atMs nowMs).1 = false ∧ (journal.claimWake id atMs nowMs).2 =
        journal) := by
  unfold claimWake
  split
  · next claimed taken => exact .inl ⟨rfl, taken⟩
  · exact .inr ⟨rfl, rfl⟩

theorem Journal.claimWake_frame (journal : Journal) (id : String) (atMs nowMs : Int) :
    (journal.claimWake id atMs nowMs).2.operations = journal.operations ∧
      (journal.claimWake id atMs nowMs).2.leases = journal.leases ∧
      (journal.claimWake id atMs nowMs).2.events = journal.events ∧
      (journal.claimWake id atMs nowMs).2.snapshots = journal.snapshots := by
  rcases journal.claimWake_cases id atMs nowMs with ⟨-, taken⟩ | ⟨-, same⟩
  · exact takeDeadline_frame taken
  · rw [same]
    exact ⟨rfl, rfl, rfl, rfl⟩

variable {query : Query} {answer : query.Answer}

open Journal in
/-- **Everything a query can do to the operations.** -/
theorem Query.run_operations (ran : query.run nowMs journal = .ok (answer, next)) :
    journal.Evolves next
      (fun op => query.finishes op.opId ∨ op.state = .awaitingInput)
      fun op => ∃ args, query = .submitAtomically args ∧ op = newOperation args ∧
        journal.hasInflightOp args.instanceId = false ∧
        ∀ old ∈ journal.operations.rows, old.opId ≠ args.opId := by
  cases query with
  | submitAtomically args =>
    obtain ⟨change, added, written, kept, fresh⟩ := Evolves.submitAtomically ran
    exact ⟨change, added, written, kept, fun op member =>
      ⟨args, rfl, (fresh op member).1, (fresh op member).2.1, (fresh op member).2.2.2⟩⟩
  | finishOperation args =>
    obtain ⟨change, added, written, kept, fresh⟩ : journal.Evolves next _ fun _ => False :=
      Evolves.finishOperation ran
    refine ⟨change, added, written, fun op member => ?_, fun op member => (fresh op member).elim⟩
    exact ⟨(kept op member).1, fun active => ((kept op member).2 active).imp_right
      fun same => .inl same.symm⟩
  | finishOpCanceled opId reason =>
    refine .update (congrArg (·.operations.rows) (moveOp_ok (mapped_ok ran))) fun op _ _ => ?_
    by_cases parked : op.state = .awaitingInput
    · exact ⟨⟨rfl, rfl, rfl, rfl, rfl, by simp [parked], nofun⟩, fun _ => .inr (.inr parked)⟩
    · exact ⟨⟨rfl, rfl, rfl, rfl, rfl, by simp [parked], nofun⟩, fun active =>
        .inl (by simpa [parked])⟩
  | setOpStep opId step =>
    cases ran
    refine .update rfl fun op _ _ => ⟨⟨rfl, rfl, rfl, rfl, rfl, id, nofun⟩, .inl⟩
  | setOpFrozeWorkload opId =>
    cases ran
    exact .update rfl fun op _ _ => ⟨⟨rfl, rfl, rfl, rfl, rfl, id, id⟩, .inl⟩
  | setOpForkMode opId mode =>
    cases ran
    exact .update rfl fun op _ _ => ⟨⟨rfl, rfl, rfl, rfl, rfl, id, id⟩, .inl⟩
  | setInstanceEpoch id epoch =>
    rw [setInstanceEpoch_cases (mapped_ok ran)]
    exact .same rfl
  | holdLease name epoch instanceId =>
    cases ran
    exact .same (journal.holdLease_frame name epoch instanceId nowMs).1
  | claimWake id atMs =>
    obtain ⟨-, rfl⟩ := Prod.mk.inj (Except.ok.inj ran)
    exact .same (journal.claimWake_frame id atMs nowMs).1
  | _ =>
    cases ran
    exact .same rfl

theorem Query.run_ownership (owned : Ownership journal)
    (ran : query.run nowMs journal = .ok (answer, next)) : Ownership next := by
  cases query with
  | submitAtomically args => exact owned.submitAtomically ran
  | finishOperation args => exact owned.finishOperation ran
  | finishOpCanceled opId reason => exact owned.finishOpCanceled (mapped_ok ran)
  | setOpStep opId step =>
    cases ran
    exact owned.setOpStep opId step
  | setOpFrozeWorkload opId =>
    cases ran
    exact owned.updateOperation ⟨fun _ _ _ => rfl, fun _ _ _ => id,
      fun op member _ => owned.inFlight_active op member⟩
  | setOpForkMode opId mode =>
    cases ran
    exact owned.updateOperation ⟨fun _ _ _ => rfl, fun _ _ _ => id,
      fun op member _ => owned.inFlight_active op member⟩
  | setInstanceEpoch id epoch =>
    rw [Journal.setInstanceEpoch_cases (mapped_ok ran)]
    exact owned.of_operations rfl
  | holdLease name epoch instanceId =>
    cases ran
    exact owned.of_operations (journal.holdLease_frame name epoch instanceId nowMs).1
  | claimWake id atMs =>
    obtain ⟨-, rfl⟩ := Prod.mk.inj (Except.ok.inj ran)
    exact owned.of_operations (journal.claimWake_frame id atMs nowMs).1
  | _ =>
    cases ran
    exact owned.of_operations rfl

/-! ### What a query can do to the leases and the snapshots -/

open Journal in
theorem Query.run_frame (ran : query.run nowMs journal = .ok (answer, next)) :
    (query.isLeaseRow = false → next.leases = journal.leases) ∧
      (query.isSnapshotRow = false → next.snapshots = journal.snapshots) := by
  cases query with
  | submitAtomically args =>
    rcases submitAtomically_cases ran with ⟨rfl, -⟩ | ⟨recorded, base, -, -, -, -, claimed, written⟩
    · exact ⟨fun _ => rfl, fun _ => rfl⟩
    · obtain ⟨-, -, -, leases, -, snapshots⟩ := recordSubmission_cases written
      rw [leases, snapshots, claimed.frame.2.1, claimed.frame.2.2.2]
      exact ⟨fun _ => rfl, fun _ => rfl⟩
  | finishOperation args =>
    rcases finishOperation_cases ran with ⟨-, rfl⟩ | ⟨-, -, -, rfl⟩ <;>
      exact ⟨fun _ => rfl, fun _ => rfl⟩
  | finishOpCanceled opId reason =>
    rw [moveOp_ok (mapped_ok ran)]
    exact ⟨fun _ => rfl, fun _ => rfl⟩
  | setInstanceEpoch target epoch =>
    rw [Journal.setInstanceEpoch_cases (mapped_ok ran)]
    exact ⟨fun _ => rfl, fun _ => rfl⟩
  | claimWake target atMs =>
    obtain ⟨-, rfl⟩ := Prod.mk.inj (Except.ok.inj ran)
    obtain ⟨-, leases, -, snapshots⟩ := journal.claimWake_frame target atMs nowMs
    exact ⟨fun _ => leases, fun _ => snapshots⟩
  | holdLease name epoch instanceId =>
    cases ran
    exact ⟨nofun, fun _ => (journal.holdLease_frame name epoch instanceId nowMs).2.2.2⟩
  | setLeaseInstance | markLeaseFencing | releaseLease =>
    cases ran
    exact ⟨nofun, fun _ => rfl⟩
  | insertSnapshot | deleteSnapshot | deleteCapsule =>
    cases ran
    exact ⟨fun _ => rfl, nofun⟩
  | _ =>
    cases ran
    exact ⟨fun _ => rfl, fun _ => rfl⟩

theorem Query.run_snapshots (ran : query.run nowMs journal = .ok (answer, next)) {row : SnapshotRow}
    (member : row ∈ next.snapshots.rows) : row ∈ journal.snapshots.rows ∨
    query = .insertSnapshot row := by
  cases query with
  | insertSnapshot inserted =>
    cases ran
    rcases List.mem_append.mp member with old | new
    · exact .inl (List.mem_of_mem_filter old)
    · exact .inr (by rw [List.mem_singleton.mp new])
  | deleteSnapshot =>
    cases ran
    exact .inl (Table.mem_delete.mp member).1
  | deleteCapsule capsuleId registered =>
    cases ran
    cases registered with
    | true => exact .inl (Table.mem_delete.mp member).1
    | false => exact .inl member
  | _ => exact .inl ((run_frame ran).2 rfl ▸ member)

theorem Query.run_recorded (ran : query.run nowMs journal = .ok (answer, next))
    {record : SnapshotRow} (member : record ∈ journal.snapshots.rows) :
    record ∈ next.snapshots.rows ∨ query = .deleteSnapshot record.snapshotId ∨
      (∃ capsuleId, query = .deleteCapsule capsuleId true ∧
        record.snapshotId = "capsule:" ++ capsuleId) ∨
      ∃ row, query = .insertSnapshot row ∧ row.snapshotId = record.snapshotId ∧
        row ∈ next.snapshots.rows := by
  cases query with
  | insertSnapshot inserted =>
    cases ran
    by_cases same : inserted.snapshotId = record.snapshotId
    · exact .inr (.inr (.inr ⟨inserted, rfl, same, List.mem_append_right _ List.mem_cons_self⟩))
    · left
      refine List.mem_append_left _ (List.mem_filter.mpr ⟨member, ?_⟩)
      simpa using Ne.symm same
  | deleteSnapshot snapshotId =>
    cases ran
    by_cases same : record.snapshotId = snapshotId
    · exact .inr (.inl (by rw [same]))
    · exact .inl (Table.mem_delete.mpr ⟨member, by simpa using same⟩)
  | deleteCapsule capsuleId registered =>
    cases ran
    cases registered with
    | false => exact .inl member
    | true =>
    by_cases same : record.snapshotId = "capsule:" ++ capsuleId
    · exact .inr (.inr (.inl ⟨capsuleId, rfl, same⟩))
    · exact .inl (Table.mem_delete.mpr ⟨member, by simpa using same⟩)
  | _ => exact .inl (((run_frame ran).2 rfl).symm ▸ member)

end Barista.Node
