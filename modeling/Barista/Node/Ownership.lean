import Barista.Node.Transactions

/-!
Journal ownership: which operations hold an executor's claim on their instance.

Owns: the ownership invariant, its preservation by every transaction that writes the
`operations` table, and the invariant over whole runs with restarts at any point.
-/

namespace Barista.Node

open Foundation

/-- Every unsettled operation holds its executor's claim, and no instance is claimed twice. -/
structure Ownership (journal : Journal) : Prop where
  inFlight_active : ∀ op ∈ journal.operations.rows, op.state.isInFlight = true →
    op.executorActive = true
  one_active : ∀ first ∈ journal.operations.rows, ∀ second ∈ journal.operations.rows,
    first.executorActive = true → second.executorActive = true →
      first.instanceId = second.instanceId → first = second

namespace Journal

variable {journal next : Journal}

/-- An update of operations that gives up claims, takes none, and leaves no unsettled
operation without one. -/
structure Yields (journal : Journal) (matching : OperationRow → Bool)
    (set : OperationRow → OperationRow) : Prop where
  sameInstance : ∀ op ∈ journal.operations.rows, matching op = true →
    (set op).instanceId = op.instanceId
  noneTaken : ∀ op ∈ journal.operations.rows, matching op = true →
    (set op).executorActive = true → op.executorActive = true
  keptInFlight : ∀ op ∈ journal.operations.rows, matching op = true →
    (set op).state.isInFlight = true → (set op).executorActive = true

end Journal

open Journal

section Preservation

variable {journal next : Journal}

variable (owned : Ownership journal)

include owned

theorem Ownership.of_operations (same : next.operations = journal.operations) : Ownership next :=
  ⟨same ▸ owned.inFlight_active, same ▸ owned.one_active⟩

variable {set : OperationRow → OperationRow}

theorem Ownership.update {matching : OperationRow → Bool}
    (written : next.operations.rows = journal.operations.rows.map fun op => if matching op
      then set op else op)
    (yields : journal.Yields matching set) : Ownership next := by
  have origin : ∀ op ∈ next.operations.rows, ∃ old ∈ journal.operations.rows,
      op = (if matching old then set old else old) ∧ op.instanceId = old.instanceId ∧
      (op.executorActive = true → old.executorActive = true) := by
    intro op member
    rw [written] at member
    obtain ⟨old, oldMember, rfl⟩ := List.mem_map.mp member
    refine ⟨old, oldMember, rfl, ?_⟩
    by_cases hit : matching old = true
    · simp only [hit, if_true]
      exact ⟨yields.sameInstance old oldMember hit, yields.noneTaken old oldMember hit⟩
    · simp [hit]
  constructor
  · intro op member
    obtain ⟨old, oldMember, rfl, -⟩ := origin op member
    by_cases hit : matching old = true
    · simp only [hit, if_true]
      exact yields.keptInFlight old oldMember hit
    · simp only [hit]
      exact owned.inFlight_active old oldMember
  · intro first firstMem second secondMem firstActive secondActive sameInstance
    obtain ⟨oldFirst, oldFirstMem, rfl, firstInstance, firstClaim⟩ := origin first firstMem
    obtain ⟨oldSecond, oldSecondMem, rfl, secondInstance, secondClaim⟩ := origin second secondMem
    rw [firstInstance, secondInstance] at sameInstance
    rw [owned.one_active oldFirst oldFirstMem oldSecond oldSecondMem (firstClaim firstActive)
      (secondClaim secondActive) sameInstance]

variable {opId : String}

theorem Ownership.updateOperation {guard : OperationRow → Bool}
    {keeps : ∀ op, (set op).opId = op.opId ∧ (set op).idempotencyKey = op.idempotencyKey}
    (yields : journal.Yields (fun op => op.opId == opId && guard op) set) :
    Ownership (journal.updateOperation opId guard set keeps) :=
  owned.update rfl yields

theorem Ownership.openJournal : Ownership journal.openJournal := by
  refine owned.update rfl ⟨fun _ _ _ => rfl, fun op member _ claimed => ?_, fun _ _ _ => id⟩
  exact owned.inFlight_active op member claimed

theorem Ownership.setOpStep (opId step : String) :
    Ownership (journal.setOpStep opId step) := by
  refine owned.updateOperation ⟨fun _ _ _ => rfl, fun _ _ _ => id, fun op member hit _ => ?_⟩
  simp only [Bool.and_eq_true, inFlight] at hit
  exact owned.inFlight_active op member hit.2

theorem Ownership.awaitOpInput {prompt : String}
    (moved : journal.awaitOpInput opId prompt = .ok next) : Ownership next := by
  rw [moveOp_ok moved]
  refine owned.updateOperation ⟨fun _ _ _ => rfl, fun _ _ _ => id, fun op member hit _ => ?_⟩
  simp only [Bool.and_eq_true] at hit
  exact owned.inFlight_active op member (OperationState.canTransition_inFlight hit.2)

theorem Ownership.resumeOpFromInput {step : String}
    (moved : journal.resumeOpFromInput opId step = .ok next) : Ownership next := by
  rw [moveOp_ok moved]
  refine owned.updateOperation ⟨fun _ _ _ => rfl, fun _ _ _ => id, fun op member hit _ => ?_⟩
  simp only [Bool.and_eq_true, beq_iff_eq] at hit
  exact owned.inFlight_active op member (by rw [hit.2]; rfl)

variable {nowMs : Int}

theorem Ownership.finishOpCanceled {reason : String}
    (moved : journal.finishOpCanceled opId reason nowMs = .ok next) : Ownership next := by
  rw [moveOp_ok moved]
  refine owned.updateOperation ⟨fun _ _ _ => rfl, fun op _ _ claimed => ?_, fun _ _ _ settled => ?_⟩
  · by_cases parked : op.state = .awaitingInput
    · simp [parked] at claimed
    · simpa [parked] using claimed
  · cases settled

theorem Ownership.finishOpFailed (opId : String)
    (reason : ErrorReason) (message : String) (nowMs : Int) :
    Ownership (journal.finishOpFailed opId reason message nowMs) := by
  refine owned.updateOperation ⟨fun _ _ _ => rfl, fun _ _ _ claimed => ?_, fun _ _ _ open_ => ?_⟩
  · cases claimed
  · cases open_

theorem Ownership.failOps (message : String) (nowMs : Int)
    (opIds : List String) : Ownership (journal.failOps message nowMs opIds) := by
  induction opIds generalizing journal with
  | nil => exact owned
  | cons opId rest ih =>
    exact ih (owned.finishOpFailed opId .unspecified message nowMs)

omit owned in
theorem hasInflightOp_false {id : String} (idle : journal.hasInflightOp id = false) :
    ∀ op ∈ journal.operations.rows, op.instanceId = id → op.executorActive = false := by
  intro op member same
  have none_ : journal.operations.count (activeOn id) = 0 := by
    simpa [hasInflightOp] using idle
  have inactive := Table.count_eq_zero.mp none_ op member
  simpa [activeOn, same] using inactive

omit owned in
theorem hasInflightOp_idle {id : String}
    (inactive : ∀ op ∈ journal.operations.rows, op.instanceId = id → op.executorActive = false) :
    journal.hasInflightOp id = false := by
  have none_ : journal.operations.count (activeOn id) = 0 := by
    refine Table.count_eq_zero.mpr fun op member => ?_
    by_cases same : op.instanceId = id
    · simp [activeOn, inactive op member same]
    · simp [activeOn, same]
  simp [hasInflightOp, none_]

theorem Ownership.submitAtomically {args : SubmitArgs} {submission : Submission}
    (submitted : journal.submitAtomically args nowMs = .ok (submission, next)) :
    Ownership next := by
  rcases submitAtomically_cases submitted with ⟨rfl, -⟩ | ⟨_, _, rfl, -⟩
  · exact owned
  · obtain ⟨-, idle, appended, -⟩ := submitAtomically_journaled submitted
    have others := hasInflightOp_false idle
    constructor
    · intro op member
      rw [appended] at member
      rcases List.mem_append.mp member with old | new
      · exact owned.inFlight_active op old
      · rw [List.mem_singleton.mp new]
        exact fun _ => rfl
    · intro first firstMem second secondMem firstActive secondActive sameInstance
      rw [appended] at firstMem secondMem
      rcases List.mem_append.mp firstMem with firstOld | firstNew <;>
        rcases List.mem_append.mp secondMem with secondOld | secondNew
      · exact owned.one_active first firstOld second secondOld firstActive secondActive sameInstance
      · rw [List.mem_singleton.mp secondNew] at sameInstance
        rw [others first firstOld sameInstance] at firstActive
        cases firstActive
      · rw [List.mem_singleton.mp firstNew] at sameInstance
        rw [others second secondOld sameInstance.symm] at secondActive
        cases secondActive
      · rw [List.mem_singleton.mp firstNew, List.mem_singleton.mp secondNew]

theorem Ownership.finishOperation {args : FinishArgs}
    {finalized : Finalized}
    (finished : journal.finishOperation args nowMs = .ok (finalized, next)) : Ownership next := by
  have advanced : Ownership (journal.advanceInstance args nowMs) := owned.of_operations rfl
  rcases finishOperation_cases finished with ⟨-, rfl⟩ | ⟨-, canceled, -, rfl⟩
  · refine advanced.updateOperation ⟨fun op _ _ => ?_, fun op _ _ claimed => ?_,
      fun op _ _ unsettled => ?_⟩
    · cases args.outcome <;> rfl
    · cases outcome : args.outcome <;> simp [outcome] at claimed
    · cases outcome : args.outcome <;> simp [outcome, OperationState.isInFlight] at unsettled
  · refine advanced.updateOperation ⟨fun _ _ _ => rfl, fun _ _ _ claimed => ?_,
      fun op member hit unsettled => ?_⟩
    · cases claimed
    · obtain ⟨found, read, settled⟩ := Option.map_eq_some_iff.mp canceled
      have named : op.opId = args.opId := by simpa using hit
      have isFound : op = found := getOperation_eq read member named
      have unsettledFound : found.state.isInFlight = true := isFound ▸ unsettled
      rw [settled] at unsettledFound
      cases unsettledFound

end Preservation

/-! ### Whole runs -/

/-- The calls that write the `operations` table. A restart opens the journal and fails the
operations it finds in flight; `completed` says how many of them it gets to before the next
call, which is another restart if the process dies again. -/
inductive JournalCall where
  | submitAtomically (args : SubmitArgs)
  | setOpStep (opId step : String)
  | awaitOpInput (opId prompt : String)
  | resumeOpFromInput (opId step : String)
  | finishOpCanceled (opId reason : String)
  | finishOperation (args : FinishArgs)
  | restart (completed : Nat) (message : String)

namespace Journal

def orUnchanged (journal : Journal) : Except String Journal → Journal
  | .ok next => next
  | .error _ => journal

/-- The journal after one call, at a reading of the clock. -/
def call (journal : Journal) (nowMs : Int) : JournalCall → Journal
  | .submitAtomically args =>
    journal.orUnchanged ((journal.submitAtomically args nowMs).map Prod.snd)
  | .setOpStep opId step => journal.setOpStep opId step
  | .awaitOpInput opId prompt => journal.orUnchanged (journal.awaitOpInput opId prompt)
  | .resumeOpFromInput opId step => journal.orUnchanged (journal.resumeOpFromInput opId step)
  | .finishOpCanceled opId reason =>
    journal.orUnchanged (journal.finishOpCanceled opId reason nowMs)
  | .finishOperation args =>
    journal.orUnchanged ((journal.finishOperation args nowMs).map Prod.snd)
  | .restart completed message =>
    let opened := journal.openJournal
    opened.failOps message nowMs (opened.inFlightOps.take completed)

/-- The journal after any sequence of calls on an empty one. -/
def afterCalls (calls : List (Int × JournalCall)) : Journal :=
  calls.foldl (fun journal call => journal.call call.1 call.2) empty

end Journal

variable {journal : Journal}

theorem Ownership.orUnchanged {result : Except String Journal} (owned : Ownership journal)
    (written : ∀ next, result = .ok next → Ownership next) :
    Ownership (journal.orUnchanged result) := by
  cases result with
  | error cause => exact owned
  | ok next => exact written next rfl

theorem mapped_snd {α : Type} {result : Except String (α × Journal)} {next : Journal}
    (mapped : result.map Prod.snd = .ok next) : ∃ answer, result = .ok (answer, next) := by
  cases result with
  | error cause => cases mapped
  | ok answered =>
    cases mapped
    exact ⟨answered.1, rfl⟩

theorem Ownership.call (owned : Ownership journal) (nowMs : Int) (call : JournalCall) :
    Ownership (journal.call nowMs call) := by
  cases call with
  | submitAtomically args =>
    refine owned.orUnchanged fun next written => ?_
    obtain ⟨_, submitted⟩ := mapped_snd written
    exact owned.submitAtomically submitted
  | setOpStep opId step => exact owned.setOpStep opId step
  | awaitOpInput opId prompt => exact owned.orUnchanged fun next => owned.awaitOpInput
  | resumeOpFromInput opId step => exact owned.orUnchanged fun next => owned.resumeOpFromInput
  | finishOpCanceled opId reason => exact owned.orUnchanged fun next => owned.finishOpCanceled
  | finishOperation args =>
    refine owned.orUnchanged fun next written => ?_
    obtain ⟨_, finished⟩ := mapped_snd written
    exact owned.finishOperation finished
  | restart completed message => exact owned.openJournal.failOps message nowMs _

theorem ownership_empty : Ownership .empty :=
  ⟨by simp [Journal.empty], by simp [Journal.empty]⟩

theorem afterCalls_ownership (calls : List (Int × JournalCall)) : Ownership (afterCalls calls) :=
  List.foldlRecOn calls _ ownership_empty fun _ owned call _ => owned.call call.1 call.2

theorem Ownership.count_active (owned : Ownership journal) (id : String) :
    journal.operations.count (activeOn id) ≤ 1 := by
  have rowsNodup : journal.operations.rows.Nodup :=
    (journal.operations.unique OperationRow.opId (by simp)).of_map _
  have activeNodup : (journal.operations.rows.filter (activeOn id)).Nodup := rowsNodup.filter _
  rw [Table.count, List.countP_eq_length_filter]
  rcases listed : journal.operations.rows.filter (activeOn id) with _ | ⟨first, _ | ⟨second, rest⟩⟩
  · simp
  · simp
  · rw [listed] at activeNodup
    have both : ∀ op ∈ [first, second], op ∈ journal.operations.rows ∧ op.executorActive = true ∧
        op.instanceId = id := by
      intro op member
      have inFilter : op ∈ journal.operations.rows.filter (activeOn id) := by
        rw [listed]
        simp only [List.mem_cons, List.not_mem_nil, or_false] at member ⊢
        exact member.imp_right .inl
      simpa [activeOn, and_comm, and_left_comm] using inFilter
    obtain ⟨firstMem, firstActive, firstOn⟩ := both first (by simp)
    obtain ⟨secondMem, secondActive, secondOn⟩ := both second (by simp)
    have same := owned.one_active first firstMem second secondMem firstActive secondActive
      (firstOn.trans secondOn.symm)
    subst same
    simp at activeNodup

/-- **Journal ownership.** After any sequence of submissions, steps, parkings, cancels,
finalizes and restarts on an empty journal, every operation that is queued, running or
awaiting input has its executor's claim, and no instance has two claims. -/
theorem journal_ownership (calls : List (Int × JournalCall)) :
    (∀ op ∈ (afterCalls calls).operations.rows,
      op.state = .queued ∨ op.state = .running ∨ op.state = .awaitingInput →
        op.executorActive = true) ∧
    ∀ id, (afterCalls calls).operations.count (activeOn id) ≤ 1 := by
  have owned := afterCalls_ownership calls
  refine ⟨fun op member unsettled => owned.inFlight_active op member ?_, owned.count_active⟩
  rcases unsettled with state | state | state <;> rw [state] <;> rfl

end Barista.Node
