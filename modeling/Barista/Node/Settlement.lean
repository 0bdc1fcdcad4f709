import Barista.Node.Database

/-!
Contract: a settled operation is final.

Owns: the outcome a caller reads of an operation, the calls that write the
`operations` table together with the two measurements an executor journals, and the
finality of an outcome over whole runs with restarts at any point.
-/

namespace Barista.Node

open Barista.Foundation Journal

structure Outcome where
  state : OperationState
  errorReason : ErrorReason
  errorMessage : String
  degraded : String
  finishedAtMs : Option Int
deriving DecidableEq, Repr

def OperationRow.outcome (op : OperationRow) : Outcome :=
  ⟨op.state, op.errorReason, op.errorMessage, op.degraded, op.finishedAtMs⟩

theorem OperationState.isSettled_not_inFlight {state : OperationState}
    (settled : state.isSettled = true) : state.isInFlight = false := by
  cases state <;> first | rfl | exact absurd settled (by decide)

theorem OperationState.isSettled_stays {state target : OperationState}
    (settled : state.isSettled = true) : state.canTransition target = false := by
  by_contra moves
  have unsettled := canTransition_inFlight (Bool.eq_true_of_not_eq_false moves)
  rw [isSettled_not_inFlight settled] at unsettled
  cases unsettled

/-- Every settled operation is still there, with the outcome it had. -/
def Journal.KeepsSettled (journal next : Journal) : Prop :=
  ∀ op ∈ journal.operations.rows, op.state.isSettled = true →
    ∃ later ∈ next.operations.rows, later.opId = op.opId ∧ later.outcome = op.outcome

namespace Journal.KeepsSettled

variable {journal next last : Journal}

theorem same (same : next.operations = journal.operations) : journal.KeepsSettled next := by
  intro op member _
  exact ⟨op, same ▸ member, rfl, rfl⟩

theorem trans (first : journal.KeepsSettled next) (second : next.KeepsSettled last) :
    journal.KeepsSettled last := by
  intro op member settled
  obtain ⟨later, laterMember, sameId, sameOutcome⟩ := first op member settled
  have laterSettled : later.state.isSettled = true := by
    have sameState : later.state = op.state := congrArg Outcome.state sameOutcome
    rw [sameState]
    exact settled
  obtain ⟨latest, latestMember, latestId, latestOutcome⟩ := second later laterMember laterSettled
  exact ⟨latest, latestMember, latestId.trans sameId, latestOutcome.trans sameOutcome⟩

variable {set : OperationRow → OperationRow}

theorem update {matching : OperationRow → Bool} (written : next.operations.rows =
      journal.operations.rows.map fun op => if matching op then set op else op)
    (kept : ∀ op ∈ journal.operations.rows, op.state.isSettled = true → matching op = true →
      (set op).opId = op.opId ∧ (set op).outcome = op.outcome) : journal.KeepsSettled next := by
  intro op member settled
  refine ⟨if matching op then set op else op, ?_, ?_⟩
  · rw [written]
    exact List.mem_map.mpr ⟨op, member, rfl⟩
  · by_cases hit : matching op = true
    · simpa only [hit, if_true] using kept op member settled hit
    · simp [hit]

variable {opId : String}

theorem guarded {guard : OperationRow → Bool}
    {keeps : ∀ op, (set op).opId = op.opId ∧ (set op).idempotencyKey = op.idempotencyKey}
    (passes : ∀ op, op.state.isSettled = true → guard op = false) :
    journal.KeepsSettled (journal.updateOperation opId guard set keeps) := by
  refine update rfl fun op _ settled hit => ?_
  rw [passes op settled, Bool.and_false] at hit
  cases hit

theorem setOpStep (opId step : String) : journal.KeepsSettled (journal.setOpStep opId step) :=
  guarded fun _ => OperationState.isSettled_not_inFlight

theorem awaitOpInput {prompt : String} (moved : journal.awaitOpInput opId prompt = .ok next) :
    journal.KeepsSettled next := by
  rw [moveOp_ok moved]
  exact guarded fun _ => OperationState.isSettled_stays

theorem resumeOpFromInput {step : String} (moved : journal.resumeOpFromInput opId step = .ok next) :
    journal.KeepsSettled next := by
  rw [moveOp_ok moved]
  refine guarded fun op settled => ?_
  by_contra parked
  have waiting : op.state = .awaitingInput := by simpa using parked
  rw [waiting] at settled
  cases settled

variable {nowMs : Int}

theorem finishOpCanceled {reason : String}
    (moved : journal.finishOpCanceled opId reason nowMs = .ok next) :
    journal.KeepsSettled next := by
  rw [moveOp_ok moved]
  exact guarded fun _ => OperationState.isSettled_stays

theorem setOpFrozeWorkload (opId : String) :
    journal.KeepsSettled (journal.setOpFrozeWorkload opId) :=
  update rfl fun _ _ _ _ => ⟨rfl, rfl⟩

theorem setOpForkMode (opId : String) (mode : ForkMode) :
    journal.KeepsSettled (journal.setOpForkMode opId mode) :=
  update rfl fun _ _ _ _ => ⟨rfl, rfl⟩

theorem submitAtomically {args : SubmitArgs} {submission : Submission}
    (submitted : journal.submitAtomically args nowMs = .ok (submission, next)) :
    journal.KeepsSettled next := by
  rcases submitAtomically_cases submitted with ⟨rfl, -⟩ | ⟨_, _, rfl, -⟩
  · exact same rfl
  · obtain ⟨-, -, appended, -⟩ := submitAtomically_journaled submitted
    intro op member _
    exact ⟨op, appended ▸ List.mem_append_left _ member, rfl, rfl⟩

theorem finishOperation {args : FinishArgs} {finalized : Finalized}
    (finished : journal.finishOperation args nowMs = .ok (finalized, next)) :
    journal.KeepsSettled next := by
  rcases finishOperation_cases finished with ⟨-, rfl⟩ | ⟨-, -, -, rfl⟩
  · have advanced : journal.KeepsSettled (journal.advanceInstance args nowMs) := same rfl
    exact advanced.trans (guarded fun _ => OperationState.isSettled_not_inFlight)
  · exact update rfl fun _ _ _ _ => ⟨rfl, rfl⟩

theorem openJournal : journal.KeepsSettled journal.openJournal :=
  update rfl fun _ _ _ _ => ⟨rfl, rfl⟩

end Journal.KeepsSettled

variable {journal : Journal}

theorem Journal.failOps_others {message : String} {nowMs : Int} {op : OperationRow}
    (opIds : List String) (member : op ∈ journal.operations.rows) (spared : op.opId ∉ opIds) :
    op ∈ (journal.failOps message nowMs opIds).operations.rows := by
  induction opIds generalizing journal with
  | nil => exact member
  | cons opId rest ih =>
    rw [List.mem_cons, not_or] at spared
    refine ih ?_ spared.2
    refine List.mem_map.mpr ⟨op, member, ?_⟩
    simp [spared.1]

theorem Journal.mem_inFlightOps {opId : String} (listed : opId ∈ journal.inFlightOps) :
    ∃ op ∈ journal.operations.rows, op.opId = opId ∧ op.state.isInFlight = true := by
  obtain ⟨op, filtered, rfl⟩ := List.mem_map.mp listed
  obtain ⟨member, unsettled⟩ := List.mem_filter.mp filtered
  exact ⟨op, member, rfl, unsettled⟩

/-- Crash recovery fails only what it found in flight, though its write has no guard: an id
names one row, and nothing else runs between its listing and its writes. -/
theorem Journal.KeepsSettled.failOps {opIds : List String} (message : String) (nowMs : Int)
    (listed : ∀ opId ∈ opIds, opId ∈ journal.inFlightOps) :
    journal.KeepsSettled (journal.failOps message nowMs opIds) := by
  intro op member settled
  have spared : op.opId ∉ opIds := by
    intro failing
    obtain ⟨other, otherMember, sameId, unsettled⟩ := mem_inFlightOps (listed _ failing)
    have idColumn : OperationRow.opId ∈ [OperationRow.opId, OperationRow.idempotencyKey] := by simp
    have isOther : other = op := Table.eq_of_column idColumn otherMember member sameId
    rw [isOther, OperationState.isSettled_not_inFlight settled] at unsettled
    cases unsettled
  exact ⟨op, failOps_others opIds member spared, rfl, rfl⟩

/-! ### Whole runs -/

/-- The calls that write the `operations` table, with the two measurements an executor
journals on the way. -/
inductive OperationWrite where
  | call (call : JournalCall)
  | setOpFrozeWorkload (opId : String)
  | setOpForkMode (opId : String) (mode : ForkMode)

namespace Journal

def write (journal : Journal) (nowMs : Int) : OperationWrite → Journal
  | .call made => journal.call nowMs made
  | .setOpFrozeWorkload opId => journal.setOpFrozeWorkload opId
  | .setOpForkMode opId mode => journal.setOpForkMode opId mode

def writes (journal : Journal) (writes : List (Int × OperationWrite)) : Journal :=
  writes.foldl (fun journal write => journal.write write.1 write.2) journal

end Journal

namespace Journal.KeepsSettled

variable {journal : Journal}

theorem orUnchanged {result : Except String Journal}
    (written : ∀ next, result = .ok next → journal.KeepsSettled next) :
    journal.KeepsSettled (journal.orUnchanged result) := by
  cases result with
  | error cause => exact same rfl
  | ok next => exact written next rfl

theorem call (nowMs : Int) (made : JournalCall) :
    journal.KeepsSettled (journal.call nowMs made) := by
  cases made with
  | submitAtomically args =>
    refine orUnchanged fun next written => ?_
    obtain ⟨_, submitted⟩ := mapped_snd written
    exact submitAtomically submitted
  | setOpStep opId step => exact setOpStep opId step
  | awaitOpInput opId prompt => exact orUnchanged fun _ => awaitOpInput
  | resumeOpFromInput opId step => exact orUnchanged fun _ => resumeOpFromInput
  | finishOpCanceled opId reason => exact orUnchanged fun _ => finishOpCanceled
  | finishOperation args =>
    refine orUnchanged fun next written => ?_
    obtain ⟨_, finished⟩ := mapped_snd written
    exact finishOperation finished
  | restart completed message =>
    exact openJournal.trans (failOps message nowMs fun _ => List.mem_of_mem_take)

theorem write (nowMs : Int) (written : OperationWrite) :
    journal.KeepsSettled (journal.write nowMs written) := by
  cases written with
  | call made => exact call nowMs made
  | setOpFrozeWorkload opId => exact setOpFrozeWorkload opId
  | setOpForkMode opId mode => exact setOpForkMode opId mode

theorem writes (writes : List (Int × OperationWrite)) :
    journal.KeepsSettled (journal.writes writes) :=
  List.foldlRecOn writes _ (same rfl) fun _ kept written _ => kept.trans (write written.1 written.2)

end Journal.KeepsSettled

/-- **Settled operations are final.** Take any run of submissions, steps, measurements,
parkings, cancels, finalizes and restarts, and an operation it has settled: after any further
such run the journal reads the operation with the state, the error, the degraded text and the
finish time it had, and it is not in flight. -/
theorem settled_operation_final (early late : List (Int × OperationWrite)) (op : OperationRow)
    (member : op ∈ (Journal.empty.writes early).operations.rows)
    (settled : op.state = .done ∨ op.state = .failed ∨ op.state = .canceled) :
    ∃ later, (Journal.empty.writes (early ++ late)).getOperation op.opId = some later ∧
      later.state = op.state ∧ later.errorReason = op.errorReason ∧
      later.errorMessage = op.errorMessage ∧ later.degraded = op.degraded ∧
      later.finishedAtMs = op.finishedAtMs ∧ later.state.isInFlight = false := by
  have isSettled : op.state.isSettled = true := by
    rcases settled with state | state | state <;> rw [state] <;> rfl
  have split : Journal.empty.writes (early ++ late) = (Journal.empty.writes early).writes late :=
    List.foldl_append
  obtain ⟨later, laterMember, sameId, sameOutcome⟩ :=
    Journal.KeepsSettled.writes late op member isSettled
  have read : ((Journal.empty.writes early).writes late).getOperation op.opId = some later := by
    cases found : ((Journal.empty.writes early).writes late).getOperation op.opId with
    | none =>
      have unnamed := Table.find?_none found later laterMember
      simp [sameId] at unnamed
    | some other => rw [getOperation_eq found laterMember sameId]
  have sameState : later.state = op.state := congrArg Outcome.state sameOutcome
  rw [split]
  refine ⟨later, read, sameState, congrArg Outcome.errorReason sameOutcome,
    congrArg Outcome.errorMessage sameOutcome, congrArg Outcome.degraded sameOutcome,
    congrArg Outcome.finishedAtMs sameOutcome, ?_⟩
  rw [sameState]
  exact OperationState.isSettled_not_inFlight isSettled

def aCreate : SubmitArgs where
  opId := "op"
  kind := .create
  instanceId := ulid
  idempotencyKey := "key"
  payload := ""
  state := .queued
  currentStep := ""
  createdAtMs := 0
  transitional := .creating
  createSpec := some (.pinned ulid 0)
  runtime := "mock"
  guestToken := "token"
  mintIdentity := fun _ => .ok none
  claim := none
  lineage := none
  plan := fun _ => none

/-- A cancel that races the finalize of a create, and a restart behind both. -/
theorem settled_operation_final_cancel_race :
    ∃ later, (Journal.empty.writes ([(0, .call (.submitAtomically aCreate)),
        (1, .call (.finishOpCanceled "op" "called off"))] ++
        [(2, .call (.finishOperation ⟨"op", ulid, .created, none, none, false, "", .ok ()⟩)),
          (3, .call (.restart 1 "agent restarted"))])).getOperation "op" = some later ∧
      later.state = .canceled ∧ later.errorReason = .unspecified ∧
      later.errorMessage = "called off" ∧ later.degraded = "" ∧
      later.finishedAtMs = some 1 ∧ later.state.isInFlight = false :=
  settled_operation_final _ _
    { newOperation aCreate with
      state := .canceled
      errorMessage := "called off"
      finishedAtMs := some 1 }
    (by decide +kernel) (.inr (.inr rfl))

end Barista.Node
