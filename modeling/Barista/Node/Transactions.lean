import Barista.Node.Journal

/-!
The journal's transactions: submissions, the operation state machine, finalizes,
fleet leases, events, and what opening the journal does.

A transaction that returns an error leaves the journal as it was, so it is an
`Except` whose error carries the message and no journal.
-/

namespace Barista.Node

open Foundation

inductive Claim where
  | ttlExpiry (deadlineMs : Int)
  | wake (atMs : Int)
deriving DecidableEq, Repr

inductive Submission where
  | journaled (recorded : InstanceState)
  | replay (original : OperationRow)
  | conflict
  | rejected (message : String)
  | claimSuperseded
deriving DecidableEq, Repr

structure Finalized where
  readinessChanged : Bool
  outcomeRecorded : Bool
deriving DecidableEq, Repr

structure SubmitArgs where
  opId : String
  kind : OpKind
  instanceId : String
  idempotencyKey : String
  payload : String
  state : OperationState
  currentStep : String
  createdAtMs : Int
  transitional : InstanceState
  createSpec : Option InstanceSpec
  runtime : String
  guestToken : String
  mintIdentity : String → Except String (Option Identity)
  claim : Option Claim
  lineage : Option Lineage
  /-- The state to record while the operation runs, given the state the instance is in. -/
  plan : InstanceState → Option InstanceState

structure FinishArgs where
  opId : String
  instanceId : String
  state : InstanceState
  ttlDeadlineMs : Option Int
  stopReason : Option StopReason
  clearReady : Bool
  degraded : String
  outcome : Except (ErrorReason × String) Unit

namespace Journal

/-! ### Opening the journal -/

/-- No executor survives the process: a claim stands exactly where an operation is in flight. -/
def openJournal (journal : Journal) : Journal :=
  { journal with
    operations := journal.operations.update (fun _ => true)
      (fun op => { op with executorActive := op.state.isInFlight }) (by simp) }

/-! ### The operation state machine -/

def setOpStep (journal : Journal) (opId step : String) : Journal :=
  journal.updateOperation opId inFlight
    (fun op => { op with state := .running, currentStep := step }) fun _ => ⟨rfl, rfl⟩

/-- One guarded transition, where matching no row is a refusal. -/
def moveOp (journal : Journal) (opId : String) (target : OperationState)
    (guard : OperationRow → Bool) (set : OperationRow → OperationRow)
    (keeps : ∀ op, (set op).opId = op.opId ∧ (set op).idempotencyKey = op.idempotencyKey) :
    Except String Journal :=
  if journal.countOperation opId guard = 1 then
    .ok (journal.updateOperation opId guard set keeps)
  else match journal.getOperation opId with
    | some op =>
      .error s!"operation {opId} is {op.state.asStrName}, which cannot become {target.asStrName}"
    | none =>
      .error s!"operation {opId} is not in the journal, so it cannot become {target.asStrName}"

theorem moveOp_ok {journal next : Journal} {opId : String} {target : OperationState}
    {guard : OperationRow → Bool} {set : OperationRow → OperationRow}
    {keeps : ∀ op, (set op).opId = op.opId ∧ (set op).idempotencyKey = op.idempotencyKey}
    (moved : journal.moveOp opId target guard set keeps = .ok next) :
    next = journal.updateOperation opId guard set keeps := by
  unfold moveOp at moved
  split at moved
  · exact (Except.ok.inj moved).symm
  · split at moved <;> cases moved

def awaitOpInput (journal : Journal) (opId prompt : String) : Except String Journal :=
  journal.moveOp opId .awaitingInput (fun op => op.state.canTransition .awaitingInput)
    (fun op => { op with state := .awaitingInput, currentStep := prompt }) fun _ => ⟨rfl, rfl⟩

/-- Guarded on `awaitingInput` exactly: starting a queued operation belongs to its executor. -/
def resumeOpFromInput (journal : Journal) (opId step : String) : Except String Journal :=
  journal.moveOp opId .running (fun op => op.state == .awaitingInput)
    (fun op => { op with state := .running, currentStep := step }) fun _ => ⟨rfl, rfl⟩

/-- Settle an operation as called off. Its executor keeps the instance, unless the operation
was parked and no executor is at work. -/
def finishOpCanceled (journal : Journal) (opId reason : String) (nowMs : Int) :
    Except String Journal :=
  journal.moveOp opId .canceled (fun op => op.state.canTransition .canceled)
    (fun op => { op with
      state := .canceled
      errorMessage := reason
      currentStep := ""
      finishedAtMs := some nowMs
      executorActive := if op.state = .awaitingInput then false else op.executorActive })
    fun _ => ⟨rfl, rfl⟩

def finishOpFailed (journal : Journal) (opId : String) (reason : ErrorReason) (message : String)
    (nowMs : Int) : Journal :=
  journal.updateOperation opId (fun _ => true)
    (fun op => { op with
      state := .failed
      errorReason := reason
      errorMessage := message
      finishedAtMs := some nowMs
      executorActive := false })
    fun _ => ⟨rfl, rfl⟩

def inFlightOps (journal : Journal) : List String :=
  (journal.operations.rows.filter inFlight).map OperationRow.opId

/-- Fail the listed operations one after another, each in a write of its own. -/
def failOps (journal : Journal) (message : String) (nowMs : Int) : List String → Journal
  | [] => journal
  | opId :: rest =>
    failOps (journal.finishOpFailed opId .unspecified message nowMs) message nowMs rest

def failInflightOps (journal : Journal) (message : String) (nowMs : Int) : Journal :=
  journal.failOps message nowMs journal.inFlightOps

/-! ### Submissions -/

/-- Clear the deadline a submission observed, if it is still the one armed and is due. -/
def takeDeadline (journal : Journal) (id : String) (claim : Claim) (nowMs : Int) :
    Option Journal :=
  let due (armed : Option Int) (expected : Int) : Bool := armed == some expected && expected ≤ nowMs
  match claim with
  | .ttlExpiry deadlineMs =>
    if journal.instances.count
        (fun row => row.instanceId == id && due row.ttlDeadlineMs deadlineMs) = 1 then
      some (journal.updateInstance id
        (fun row => { row with ttlDeadlineMs := none, updatedAtMs := nowMs }) fun _ => rfl)
    else none
  | .wake atMs =>
    if journal.instances.count
        (fun row => row.instanceId == id && due row.wakeAtMs atMs) = 1 then
      some (journal.updateInstance id
        (fun row => { row with wakeAtMs := none, updatedAtMs := nowMs }) fun _ => rfl)
    else none

/-- What the instance row will say while the operation runs, or why there is none. -/
def plannedState (journal : Journal) (args : SubmitArgs) : Except String InstanceState :=
  match args.createSpec, journal.getInstance args.instanceId with
  | some _, some _ =>
    .error s!"instance {args.instanceId} already exists (specs are immutable)"
  | some _, none => .ok args.transitional
  | none, none => .error s!"instance {args.instanceId} does not exist"
  | none, some row =>
    match args.plan row.state with
    | some recorded => .ok recorded
    | none => .error s!"illegal transition {row.state.debug} → {args.transitional.debug}"

def newOperation (args : SubmitArgs) : OperationRow where
  opId := args.opId
  kind := args.kind
  instanceId := args.instanceId
  idempotencyKey := args.idempotencyKey
  payload := args.payload
  state := args.state
  currentStep := args.currentStep
  errorReason := .unspecified
  errorMessage := ""
  degraded := ""
  createdAtMs := args.createdAtMs
  finishedAtMs := none
  frozeWorkload := false
  actualForkMode := .unspecified
  executorActive := true

def newInstance (args : SubmitArgs) (spec : InstanceSpec) (identity : Option Identity)
    (nowMs : Int) : InstanceRow where
  instanceId := spec.instanceId
  spec := spec
  state := .creating
  ready := false
  runtime := args.runtime
  createdAtMs := nowMs
  updatedAtMs := nowMs
  ttlDeadlineMs := none
  latestSnapshotId := ""
  guestToken := args.guestToken
  identity := identity
  wakeAtMs := none
  stopReason := none
  runEpochMs := none
  lineage := args.lineage
  executionEpoch := 0

def recordInstance (journal : Journal) (args : SubmitArgs) (recorded : InstanceState)
    (nowMs : Int) : Except String Journal :=
  match args.createSpec with
  | some spec =>
    match args.mintIdentity spec.instanceId with
    | .error cause => .error s!"minting the channel identity: {cause}"
    | .ok identity =>
      match journal.instances.insert? (newInstance args spec identity nowMs) with
      | some instances => .ok { journal with instances := instances }
      | none => .error "UNIQUE constraint failed: instances.instance_id"
  | none =>
    .ok (journal.updateInstance args.instanceId
      (fun row => { row with state := recorded, updatedAtMs := nowMs })
      (entering_keeps recorded nowMs))

def recordSubmission (journal : Journal) (args : SubmitArgs) (recorded : InstanceState)
    (nowMs : Int) : Except String (Submission × Journal) :=
  match journal.operations.insert? (newOperation args) with
  | none => .error "UNIQUE constraint failed: operations.op_id"
  | some operations =>
    match recordInstance { journal with operations := operations } args recorded nowMs with
    | .error cause => .error cause
    | .ok journal => .ok (.journaled recorded, journal)

/-- Commit a submission's checks and writes as one transaction. -/
def submitAtomically (journal : Journal) (args : SubmitArgs) (nowMs : Int) :
    Except String (Submission × Journal) :=
  -- Replay wins over everything.
  match journal.findOpByIdempotencyKey args.idempotencyKey with
  | some original => .ok (.replay original, journal)
  | none =>
    if journal.hasInflightOp args.instanceId then .ok (.conflict, journal)
    else match journal.plannedState args with
      | .error message => .ok (.rejected message, journal)
      | .ok recorded =>
        match args.claim with
        | none => journal.recordSubmission args recorded nowMs
        | some claim =>
          match journal.takeDeadline args.instanceId claim nowMs with
          | none => .ok (.claimSuperseded, journal)
          | some claimed => claimed.recordSubmission args recorded nowMs

/-! ### Finalizes -/

def advanceInstance (journal : Journal) (args : FinishArgs) (nowMs : Int) : Journal :=
  journal.updateInstance args.instanceId
    (fun row => { row with
      state := args.state
      updatedAtMs := nowMs
      stopReason := args.stopReason
      ttlDeadlineMs := args.ttlDeadlineMs
      ready := if args.clearReady then false else row.ready })
    fun _ => rfl

/-- The operation half of a finalize, for an operation still in flight. -/
def settleOperation (journal : Journal) (args : FinishArgs) (nowMs : Int) : Journal :=
  journal.updateOperation args.opId inFlight
    (fun op => match args.outcome with
      | .ok () => { op with
          state := .done
          finishedAtMs := some nowMs
          currentStep := ""
          degraded := args.degraded
          executorActive := false }
      | .error (reason, message) => { op with
          state := .failed
          finishedAtMs := some nowMs
          errorReason := reason
          errorMessage := message
          degraded := args.degraded
          executorActive := false })
    fun op => by cases args.outcome <;> exact ⟨rfl, rfl⟩

/-- The executor's claim alone, once a cancellation has settled the outcome. -/
def releaseExecutor (journal : Journal) (opId : String) : Journal :=
  journal.updateOperation opId (fun _ => true) (fun op => { op with executorActive := false })
    fun _ => ⟨rfl, rfl⟩

def finishOperation (journal : Journal) (args : FinishArgs) (nowMs : Int) :
    Except String (Finalized × Journal) :=
  let was := journal.getInstance args.instanceId
  let readinessChanged := args.clearReady && was.any InstanceRow.ready
  let advanced := journal.advanceInstance args nowMs
  if journal.countOperation args.opId inFlight = 1 then
    .ok (⟨readinessChanged, true⟩, advanced.settleOperation args nowMs)
  else if (journal.getOperation args.opId).map OperationRow.state ≠ some .canceled then
    .error (s!"operation {args.opId} was not in the journal in a state it could be finished " ++
      "from, so its instance was not advanced either")
  else match was with
    | some row =>
      if row.state = args.state ∨ row.state.canTransition args.state then
        .ok (⟨readinessChanged, false⟩, advanced.releaseExecutor args.opId)
      else
        .error (s!"operation {args.opId} was canceled and its instance is " ++
          s!"{row.state.asStrName}, which cannot become {args.state.asStrName} — so the state " ++
          "its work reached was not applied")
    | none =>
      .error (s!"operation {args.opId} was canceled and its instance is absent from the " ++
        s!"journal, which cannot become {args.state.asStrName} — so the state its work " ++
        "reached was not applied")

/-! ### What each transaction can do -/

section Inversion

variable {journal next : Journal} {args : SubmitArgs} {nowMs : Int}

theorem getOperation_eq {opId : String} {found op : OperationRow}
    (read : journal.getOperation opId = some found) (member : op ∈ journal.operations.rows)
    (named : op.opId = opId) : op = found := by
  obtain ⟨foundMember, foundNamed⟩ := Table.mem_of_find? read
  have keyColumn : OperationRow.opId ∈ [OperationRow.opId, OperationRow.idempotencyKey] := by simp
  refine Table.eq_of_column keyColumn member foundMember ?_
  rw [named]
  exact (beq_iff_eq.mp foundNamed).symm

theorem failOps_frame (message : String) (nowMs : Int) (opIds : List String) (journal : Journal) :
    (journal.failOps message nowMs opIds).instances = journal.instances ∧
      (journal.failOps message nowMs opIds).leases = journal.leases ∧
      (journal.failOps message nowMs opIds).events = journal.events ∧
      (journal.failOps message nowMs opIds).snapshots = journal.snapshots := by
  induction opIds generalizing journal with
  | nil => exact ⟨rfl, rfl, rfl, rfl⟩
  | cons opId rest ih => exact ih _

theorem takeDeadline_frame {id : String} {claim : Claim}
    (taken : journal.takeDeadline id claim nowMs = some next) :
    next.operations = journal.operations ∧ next.leases = journal.leases ∧
      next.events = journal.events ∧ next.snapshots = journal.snapshots := by
  cases claim <;>
  · simp only [takeDeadline] at taken
    split at taken
    · cases taken
      exact ⟨rfl, rfl, rfl, rfl⟩
    · cases taken

theorem recordInstance_frame {recorded : InstanceState}
    (written : journal.recordInstance args recorded nowMs = .ok next) :
    next.operations = journal.operations ∧ next.leases = journal.leases ∧
      next.events = journal.events ∧ next.snapshots = journal.snapshots := by
  unfold recordInstance at written
  split at written
  · split at written
    · cases written
    · split at written
      · cases written
        exact ⟨rfl, rfl, rfl, rfl⟩
      · cases written
  · cases written
    exact ⟨rfl, rfl, rfl, rfl⟩

theorem recordSubmission_cases {recorded : InstanceState} {submission : Submission}
    (written : journal.recordSubmission args recorded nowMs = .ok (submission, next)) :
    submission = .journaled recorded ∧
      (∃ operations, journal.operations.insert? (newOperation args) = some operations ∧
        recordInstance { journal with operations := operations } args recorded nowMs = .ok next) ∧
      next.operations.rows = journal.operations.rows ++ [newOperation args] ∧
      next.leases = journal.leases ∧ next.events = journal.events ∧
      next.snapshots = journal.snapshots := by
  unfold recordSubmission at written
  split at written
  · cases written
  · next operations inserted =>
      split at written
      · cases written
      · next after recordedInstance =>
          cases written
          obtain ⟨sameOperations, sameOthers⟩ := recordInstance_frame recordedInstance
          refine ⟨rfl, ⟨operations, inserted, recordedInstance⟩, ?_, sameOthers⟩
          rw [sameOperations]
          exact (Table.insert?_rows inserted).1

/-- The state a submission's writes start from: the journal, less the deadline it claims. -/
def Claimed (journal : Journal) (args : SubmitArgs) (nowMs : Int) (base : Journal) : Prop :=
  (args.claim = none ∧ base = journal) ∨
    ∃ claim, args.claim = some claim ∧
      journal.takeDeadline args.instanceId claim nowMs = some base

theorem Claimed.frame {base : Journal} (claimed : Claimed journal args nowMs base) :
    base.operations = journal.operations ∧ base.leases = journal.leases ∧
      base.events = journal.events ∧ base.snapshots = journal.snapshots := by
  rcases claimed with ⟨-, rfl⟩ | ⟨claim, -, taken⟩
  · exact ⟨rfl, rfl, rfl, rfl⟩
  · exact takeDeadline_frame taken

/-- **Everything a submission can do.** It is answered without writing anything, or it is
journaled: the key was unused, the instance unclaimed and the move legal. -/
theorem submitAtomically_cases {submission : Submission}
    (submitted : journal.submitAtomically args nowMs = .ok (submission, next)) :
    (next = journal ∧ ((∃ original, submission = .replay original ∧
        journal.findOpByIdempotencyKey args.idempotencyKey = some original) ∨
      (journal.findOpByIdempotencyKey args.idempotencyKey = none ∧
        ((submission = .conflict ∧ journal.hasInflightOp args.instanceId = true) ∨
          (∃ message, submission = .rejected message ∧ journal.plannedState args = .error message) ∨
          submission = .claimSuperseded)))) ∨ (∃ recorded base, submission = .journaled recorded ∧
      journal.findOpByIdempotencyKey args.idempotencyKey = none ∧
      journal.hasInflightOp args.instanceId = false ∧ journal.plannedState args = .ok recorded ∧
      Claimed journal args nowMs base ∧
      base.recordSubmission args recorded nowMs = .ok (submission, next)) := by
  unfold submitAtomically at submitted
  split at submitted
  · next original replayed =>
      cases submitted
      exact .inl ⟨rfl, .inl ⟨original, rfl, replayed⟩⟩
  · next unused =>
      split at submitted
      · next busy =>
          cases submitted
          exact .inl ⟨rfl, .inr ⟨unused, .inl ⟨rfl, busy⟩⟩⟩
      · next idle =>
          split at submitted
          · next message refused =>
              cases submitted
              exact .inl ⟨rfl, .inr ⟨unused, .inr (.inl ⟨message, rfl, refused⟩)⟩⟩
          · next recorded planned =>
              have unclaimed : journal.hasInflightOp args.instanceId = false := by
                simpa using idle
              split at submitted
              · next noClaim =>
                  have shape := (recordSubmission_cases submitted).1
                  exact .inr ⟨recorded, journal, shape, unused, unclaimed, planned,
                    .inl ⟨noClaim, rfl⟩, submitted⟩
              · next claim claims =>
                  split at submitted
                  · cases submitted
                    exact .inl ⟨rfl, .inr ⟨unused, .inr (.inr rfl)⟩⟩
                  · next base taken =>
                      have shape := (recordSubmission_cases submitted).1
                      exact .inr ⟨recorded, base, shape, unused, unclaimed, planned,
                        .inr ⟨claim, claims, taken⟩, submitted⟩

theorem submitAtomically_journaled {recorded : InstanceState}
    (submitted : journal.submitAtomically args nowMs = .ok (.journaled recorded, next)) :
    journal.plannedState args = .ok recorded ∧ journal.hasInflightOp args.instanceId = false ∧
      next.operations.rows = journal.operations.rows ++ [newOperation args] ∧
      (∀ op ∈ journal.operations.rows, op.opId ≠ args.opId) ∧
      ∃ base, Claimed journal args nowMs base ∧
        base.recordSubmission args recorded nowMs = .ok (.journaled recorded, next) := by
  rcases submitAtomically_cases submitted with
    ⟨-, ⟨_, refused, -⟩ | ⟨-, ⟨refused, -⟩ | ⟨_, refused, -⟩ | refused⟩⟩ |
    ⟨_, base, shape, -, idle, planned, claimed, written⟩
  · cases refused
  · cases refused
  · cases refused
  · cases refused
  · cases shape
    obtain ⟨-, ⟨operations, inserted, -⟩, appended, -⟩ := recordSubmission_cases written
    rw [claimed.frame.1] at appended inserted
    exact ⟨planned, idle, appended, (Table.insert?_rows inserted).2 OperationRow.opId
      (by simp), base, claimed, written⟩

/-- **Everything a finalize can do.** An operation in flight settles with its instance; a
cancelled one gives up its claim and moves its instance along a legal edge. -/
theorem finishOperation_cases {finish : FinishArgs} {finalized : Finalized}
    (finished : journal.finishOperation finish nowMs = .ok (finalized, next)) :
    (journal.countOperation finish.opId inFlight = 1 ∧
      next = (journal.advanceInstance finish nowMs).settleOperation finish nowMs) ∨
    (journal.countOperation finish.opId inFlight ≠ 1 ∧
      (journal.getOperation finish.opId).map OperationRow.state = some .canceled ∧
      (∃ row, journal.getInstance finish.instanceId = some row ∧
        (row.state = finish.state ∨ row.state.canTransition finish.state = true)) ∧
      next = (journal.advanceInstance finish nowMs).releaseExecutor finish.opId) := by
  unfold finishOperation at finished
  simp only at finished
  split at finished
  · next settles =>
      cases finished
      exact .inl ⟨settles, rfl⟩
  · next unsettled =>
      split at finished
      · cases finished
      · next canceled =>
          split at finished
          · next row found =>
              split at finished
              · next legal =>
                  cases finished
                  exact .inr ⟨unsettled, by simpa using canceled, ⟨row, found, legal⟩, rfl⟩
              · cases finished
          · cases finished

theorem submitAtomically_accepts {recorded : InstanceState}
    (unbound : journal.findOpByIdempotencyKey args.idempotencyKey = none)
    (fresh : ∀ op ∈ journal.operations.rows, op.opId ≠ args.opId)
    (idle : journal.hasInflightOp args.instanceId = false)
    (planned : journal.plannedState args = .ok recorded) (unclaimed : args.claim = none)
    (creates : args.createSpec = none) :
    ∃ next, journal.submitAtomically args nowMs = .ok (.journaled recorded, next) := by
  obtain ⟨operations, inserted⟩ :
      ∃ operations, journal.operations.insert? (newOperation args) = some operations := by
    refine Table.insert?_fresh fun column member old oldMember => ?_
    simp only [List.mem_cons, List.not_mem_nil, or_false] at member
    rcases member with rfl | rfl
    · exact fresh old oldMember
    · intro clash
      have unnamed := Table.find?_none unbound old oldMember
      rw [beq_eq_false_iff_ne] at unnamed
      exact unnamed clash
  simp [submitAtomically, unbound, idle, planned, unclaimed, recordSubmission, inserted,
    recordInstance, creates]

theorem finishOperation_released {finish : FinishArgs} {finalized : Finalized}
    (finished : journal.finishOperation finish nowMs = .ok (finalized, next)) {op : OperationRow}
    (member : op ∈ next.operations.rows) (named : op.opId = finish.opId) :
    op.executorActive = false := by
  have idColumn : OperationRow.opId ∈ [OperationRow.opId, OperationRow.idempotencyKey] := by simp
  rcases finishOperation_cases finished with ⟨settles, rfl⟩ | ⟨-, -, -, rfl⟩
  · -- The one row under this id is in flight, so it is the one that is settled.
    obtain ⟨old, oldMember, rfl⟩ := List.mem_map.mp member
    split
    · cases finish.outcome <;> rfl
    · next spared =>
        rw [if_neg spared] at named
        have counted : journal.operations.count (fun op => op.opId == finish.opId && inFlight op) =
          0 := by
          refine Table.count_eq_zero.mpr fun other otherMember => ?_
          by_contra hit
          rw [Bool.not_eq_false] at hit
          have same : other = old := Table.eq_of_column idColumn otherMember oldMember
            ((beq_iff_eq.mp (Bool.and_eq_true_iff.mp hit).1).trans named.symm)
          exact spared (same ▸ hit)
        rw [countOperation, counted] at settles
        cases settles
  · obtain ⟨old, oldMember, rfl⟩ := List.mem_map.mp member
    split
    · rfl
    · next spared =>
        rw [if_neg spared] at named
        simp [named] at spared

end Inversion

end Journal

end Barista.Node
