import Barista.Foundation.Transaction
import Barista.Foundation.Trace
import Barista.Node.Sections
import Barista.Node.Settlement

/-!
Contract: the journal's two transactions, statement by statement.

`submit_atomically` and `finish_operation` check, write and give up in several places, and
any of their statements may fail. Here both are bodies of statements on a connection's
working copy. Each refines the function of the journal that the rest of the development
uses: without faults it ends as that function says, and under any faults it ends so or
with an error that has changed nothing.

Owns: the statements, both bodies, the two refinements, and what a refused submission and
a failed finalize leave behind.
-/

namespace Barista.Node

open Barista.Foundation Barista.Foundation.Transaction Journal

/-! ### Statements -/

inductive Statement where
  | opIdByKey (key : String)
  | readOperation (opId : String)
  | countActive (id : String)
  | instanceState (id : String)
  | takeDeadline (id : String) (claim : Claim) (nowMs : Int)
  | insertOperation (op : OperationRow)
  | insertInstance (row : InstanceRow)
  | moveInstance (id : String) (state : InstanceState) (nowMs : Int)
  | setStopReason (id : String) (reason : Option StopReason)
  | setTtlDeadline (id : String) (deadlineMs : Option Int)
  | clearReady (id : String)
  | settleOperation (args : FinishArgs) (nowMs : Int)
  | operationState (opId : String)
  | releaseExecutor (opId : String)

abbrev Statement.Answer : Statement → Type
  | opIdByKey _ => Option String
  | readOperation _ => Option OperationRow
  | instanceState _ => Option InstanceState
  | operationState _ => Option OperationState
  | countActive _ | takeDeadline .. | clearReady _ | settleOperation .. => Nat
  | _ => Unit

def Statement.effect : Effect Statement.Answer Journal
  | opIdByKey key, journal =>
    .ok ((journal.findOpByIdempotencyKey key).map OperationRow.opId, journal)
  | readOperation opId, journal => .ok (journal.getOperation opId, journal)
  | countActive id, journal => .ok (journal.operations.count (activeOn id), journal)
  | instanceState id, journal => .ok (journal.stateOf id, journal)
  | takeDeadline id claim nowMs, journal =>
    let matching (row : InstanceRow) : Bool := row.instanceId == id && claim.due nowMs row
    .ok (journal.instances.count matching, { journal with
      instances := journal.instances.update matching (fun row => claim.clear nowMs row)
        (by simpa using claim.clear_instanceId nowMs) })
  | insertOperation op, journal =>
    match journal.operations.insert? op with
    | some operations => .ok ((), { journal with operations := operations })
    | none => .error "UNIQUE constraint failed: operations.op_id"
  | insertInstance row, journal =>
    match journal.instances.insert? row with
    | some instances => .ok ((), { journal with instances := instances })
    | none => .error "UNIQUE constraint failed: instances.instance_id"
  | moveInstance id state nowMs, journal =>
    .ok ((), journal.updateInstance id
      (fun row => { row with state := state, updatedAtMs := nowMs }) (entering_keeps state nowMs))
  | setStopReason id reason, journal =>
    .ok ((), journal.updateInstance id (fun row => { row with stopReason := reason }) fun _ => rfl)
  | setTtlDeadline id deadlineMs, journal =>
    .ok ((), journal.updateInstance id
      (fun row => { row with ttlDeadlineMs := deadlineMs }) fun _ => rfl)
  | clearReady id, journal =>
    .ok (journal.instances.count fun row => row.instanceId == id && row.ready, { journal with
        instances := journal.instances.update (fun row => row.instanceId == id && row.ready)
          (fun row => { row with ready := false }) (by simp) })
  | settleOperation args nowMs, journal =>
    .ok (journal.countOperation args.opId inFlight, journal.settleOperation args nowMs)
  | operationState opId, journal =>
    .ok ((journal.getOperation opId).map OperationRow.state, journal)
  | releaseExecutor opId, journal => .ok ((), journal.releaseExecutor opId)

abbrev Db (α : Type) := Transaction Statement.Answer α

namespace Db

/-! ### `submit_atomically` -/

/-- What the instance row will say while the operation runs, from the state that was read. -/
def recordedState (args : SubmitArgs) (current : Option InstanceState) :
    Except String InstanceState :=
  match args.createSpec, current with
  | some _, some _ => .error s!"instance {args.instanceId} already exists (specs are immutable)"
  | some _, none => .ok args.transitional
  | none, none => .error s!"instance {args.instanceId} does not exist"
  | none, some state =>
    match args.plan state with
    | some recorded => .ok recorded
    | none => .error s!"illegal transition {state.debug} → {args.transitional.debug}"

def writeInstance (args : SubmitArgs) (recorded : InstanceState) (nowMs : Int) : Db Submission :=
  match args.createSpec with
  | some spec =>
    match args.mintIdentity spec.instanceId with
    | .error cause => .pure (.error s!"minting the channel identity: {cause}")
    | .ok identity =>
      attempt (.insertInstance (newInstance args spec identity nowMs)) fun _ =>
        committing (.journaled recorded)
  | none =>
    attempt (.moveInstance args.instanceId recorded nowMs) fun _ =>
      committing (.journaled recorded)

def writeSubmission (args : SubmitArgs) (recorded : InstanceState) (nowMs : Int) : Db Submission :=
  attempt (.insertOperation (newOperation args)) fun _ => writeInstance args recorded nowMs

/-- The claim is the last of the checks and the first of the writes. -/
def claimAndWrite (args : SubmitArgs) (recorded : InstanceState) (nowMs : Int) : Db Submission :=
  match args.claim with
  | none => writeSubmission args recorded nowMs
  | some claim =>
    attempt (.takeDeadline args.instanceId claim nowMs) fun changed =>
      if changed = 1 then writeSubmission args recorded nowMs
      else rollingBack (.ok .claimSuperseded)

def submitAtomically (args : SubmitArgs) (nowMs : Int) : Db Submission :=
  attempt (.opIdByKey args.idempotencyKey) fun existing =>
    match existing with
    | some opId =>
      attempt (.readOperation opId) fun original =>
        match original with
        | some original => rollingBack (.ok (.replay original))
        | none => rollingBack (.ok .conflict)
    | none =>
      attempt (.countActive args.instanceId) fun inflight =>
        if 0 < inflight then rollingBack (.ok .conflict)
        else attempt (.instanceState args.instanceId) fun current =>
          match recordedState args current with
          | .error message => rollingBack (.ok (.rejected message))
          | .ok recorded => claimAndWrite args recorded nowMs

/-! ### `finish_operation` -/

def settle (args : FinishArgs) (nowMs : Int) (was : Option InstanceState)
    (readinessChanged : Bool) : Db Finalized :=
  attempt (.settleOperation args nowMs) fun finished =>
    if finished = 1 then committing ⟨readinessChanged, true⟩
    else attempt (.operationState args.opId) fun recorded =>
      if recorded ≠ some .canceled then
        rollingBack (.error
          (s!"operation {args.opId} was not in the journal in a state it could be finished " ++
            "from, so its instance was not advanced either"))
      else match was with
        | some source =>
          if source = args.state ∨ source.canTransition args.state then
            attempt (.releaseExecutor args.opId) fun _ => committing ⟨readinessChanged, false⟩
          else
            rollingBack (.error (s!"operation {args.opId} was canceled and its instance is " ++
              s!"{source.asStrName}, which cannot become {args.state.asStrName} — so the state " ++
              "its work reached was not applied"))
        | none =>
          rollingBack (.error
            (s!"operation {args.opId} was canceled and its instance is absent from the " ++
              s!"journal, which cannot become {args.state.asStrName} — so the state its work " ++
              "reached was not applied"))

def finishOperation (args : FinishArgs) (nowMs : Int) : Db Finalized :=
  attempt (.instanceState args.instanceId) fun was =>
  attempt (.moveInstance args.instanceId args.state nowMs) fun _ =>
  attempt (.setStopReason args.instanceId args.stopReason) fun _ =>
  attempt (.setTtlDeadline args.instanceId args.ttlDeadlineMs) fun _ =>
    if args.clearReady then
      attempt (.clearReady args.instanceId) fun changed => settle args nowMs was (0 < changed)
    else settle args nowMs was false

/-! ### Every failure ends a body -/

theorem writeSubmission_strict (args : SubmitArgs) (recorded : InstanceState) (nowMs : Int) :
    Strict (writeSubmission args recorded nowMs) := by
  refine .attempt fun _ => ?_
  unfold writeInstance
  split
  · split
    · exact .failing _
    · exact .attempt fun _ => .committing _
  · exact .attempt fun _ => .committing _

theorem submitAtomically_strict (args : SubmitArgs) (nowMs : Int) :
    Strict (submitAtomically args nowMs) := by
  refine .attempt fun existing => ?_
  cases existing with
  | some opId =>
    refine .attempt fun original => ?_
    cases original <;> exact .rollingBack _
  | none =>
    refine .attempt fun inflight => ?_
    split
    · exact .rollingBack _
    · refine .attempt fun current => ?_
      split
      · exact .rollingBack _
      · unfold claimAndWrite
        split
        · exact writeSubmission_strict ..
        · refine .attempt fun changed => ?_
          split
          · exact writeSubmission_strict ..
          · exact .rollingBack _

theorem settle_strict (args : FinishArgs) (nowMs : Int) (was : Option InstanceState)
    (readinessChanged : Bool) : Strict (settle args nowMs was readinessChanged) := by
  refine .attempt fun finished => ?_
  split
  · exact .committing _
  · refine .attempt fun recorded => ?_
    split
    · exact .rollingBack _
    · cases was with
      | none => exact .rollingBack _
      | some source =>
        simp only
        split
        · exact .attempt fun _ => .committing _
        · exact .rollingBack _

theorem finishOperation_strict (args : FinishArgs) (nowMs : Int) :
    Strict (finishOperation args nowMs) := by
  refine .attempt fun was => .attempt fun _ => .attempt fun _ => .attempt fun _ => ?_
  split
  · exact .attempt fun changed => settle_strict ..
  · exact settle_strict ..

/-! ### Without faults, the bodies are the journal's functions -/

section Calm

variable {journal base : Journal} {args : SubmitArgs} {nowMs : Int}

/-- What a call of the journal returns and leaves behind; an error has written nothing. -/
def concluded {α : Type} (journal : Journal) : Except String (α × Journal) →
    Except String α × Journal
  | .ok (value, next) => (.ok value, next)
  | .error cause => (.error cause, journal)

theorem recordedState_eq : recordedState args (journal.stateOf args.instanceId) =
    journal.plannedState args := by
  unfold recordedState plannedState stateOf
  cases args.createSpec <;> cases journal.getInstance args.instanceId <;> rfl

theorem calm_writeInstance (recorded : InstanceState) :
    calm Statement.effect (writeInstance args recorded nowMs) ⟨journal, base⟩ = concluded journal
        ((base.recordInstance args recorded nowMs).map (Submission.journaled recorded, ·)) := by
  unfold writeInstance recordInstance
  cases args.createSpec with
  | none =>
    simp only [calm_attempt]
    rfl
  | some spec =>
    cases minted : args.mintIdentity spec.instanceId with
    | error cause =>
      simp only [minted]
      rfl
    | ok identity =>
      simp only [minted, calm_attempt, Statement.effect]
      cases base.instances.insert? (newInstance args spec identity nowMs) <;> rfl

theorem calm_writeSubmission (recorded : InstanceState) :
    calm Statement.effect (writeSubmission args recorded nowMs) ⟨journal, base⟩ =
      concluded journal (base.recordSubmission args recorded nowMs) := by
  unfold recordSubmission writeSubmission
  rw [calm_attempt]
  simp only [Statement.effect]
  cases base.operations.insert? (newOperation args) with
  | none => rfl
  | some operations =>
    simp only [calm_writeInstance]
    cases recordInstance { base with operations := operations } args recorded nowMs <;> rfl

theorem calm_submitAtomically : calm Statement.effect (submitAtomically args nowMs)
    ⟨journal, journal⟩ =
      concluded journal (journal.submitAtomically args nowMs) := by
  unfold submitAtomically Journal.submitAtomically
  rw [calm_attempt]
  simp only [Statement.effect]
  cases replayed : journal.findOpByIdempotencyKey args.idempotencyKey with
  | some original =>
    simp only [Option.map_some, calm_attempt, Statement.effect]
    have member := (Table.mem_of_find? replayed).1
    cases read : journal.getOperation original.opId with
    | none =>
      have unnamed := Table.find?_none read original member
      simp at unnamed
    | some found =>
      rw [getOperation_eq read member rfl]
      rfl
  | none =>
    simp only [Option.map_none, calm_attempt, Statement.effect, hasInflightOp]
    by_cases busy : 0 < journal.operations.count (activeOn args.instanceId)
    · simp only [busy, if_true, decide_true]
      rfl
    · simp only [busy, if_false, decide_false, calm_attempt, Statement.effect, recordedState_eq]
      cases journal.plannedState args with
      | error message => rfl
      | ok recorded =>
        simp only [claimAndWrite]
        cases args.claim with
        | none => exact calm_writeSubmission recorded
        | some claim =>
          simp only [calm_attempt, Statement.effect, takeDeadline_eq]
          split
          · exact calm_writeSubmission recorded
          · rfl

/-- The statements of a finalize's instance half, in the order they run. -/
def advancing (journal : Journal) (args : FinishArgs) (nowMs : Int) : Journal :=
  ((journal.updateInstance args.instanceId
      (fun row => { row with state := args.state, updatedAtMs := nowMs }) fun _ =>
      rfl).updateInstance
    args.instanceId (fun row => { row with stopReason := args.stopReason }) fun _ =>
      rfl).updateInstance
    args.instanceId (fun row => { row with ttlDeadlineMs := args.ttlDeadlineMs }) fun _ => rfl

theorem advancing_rows (journal : Journal) (args : FinishArgs) (nowMs : Int) :
    (advancing journal args nowMs).instances.rows =
    journal.instances.rows.map fun row => if row.instanceId == args.instanceId then
      { row with
        state := args.state
        updatedAtMs := nowMs
        stopReason := args.stopReason
        ttlDeadlineMs := args.ttlDeadlineMs } else row := by
  simp only [advancing, updateInstance, Table.update, List.map_map]
  refine List.map_congr_left fun row _ => ?_
  by_cases named : row.instanceId = args.instanceId <;> simp [named]

theorem advancing_eq (journal : Journal) (args : FinishArgs) (nowMs : Int)
    (keeps : args.clearReady = false) :
    advancing journal args nowMs = journal.advanceInstance args nowMs := by
  have instances : (advancing journal args nowMs).instances =
      (journal.advanceInstance args nowMs).instances := by
    refine Table.eq_of_rows ?_
    rw [advancing_rows]
    simp [advanceInstance, updateInstance, Table.update, keeps]
  simpa [advanceInstance, advancing, updateInstance] using instances

theorem advancing_cleared (journal : Journal) (args : FinishArgs) (nowMs : Int)
    (clears : args.clearReady = true) : { advancing journal args nowMs with
      instances := (advancing journal args nowMs).instances.update
        (fun row => row.instanceId == args.instanceId && row.ready)
        (fun row => { row with ready := false }) (by simp) } = journal.advanceInstance
          args nowMs := by
  have instances : (advancing journal args nowMs).instances.update
      (fun row => row.instanceId == args.instanceId && row.ready)
      (fun row => { row with ready := false }) (by simp) =
      (journal.advanceInstance args nowMs).instances := by
    refine Table.eq_of_rows ?_
    simp only [Table.update, advancing_rows, List.map_map, advanceInstance, updateInstance, clears]
    refine List.map_congr_left fun row _ => ?_
    by_cases named : row.instanceId = args.instanceId
    · cases ready : row.ready <;> simp [named, ready]
    · simp [named]
  simp only [instances]
  rfl

theorem advancing_ready (journal : Journal) (args : FinishArgs) (nowMs : Int) :
    decide (0 < (advancing journal args nowMs).instances.count
      fun row => row.instanceId == args.instanceId && row.ready) =
      (journal.getInstance args.instanceId).any InstanceRow.ready := by
  rw [Table.count, advancing_rows, List.countP_map]
  cases found : journal.getInstance args.instanceId with
  | none =>
    have unnamed := Table.find?_none found
    rw [List.countP_eq_zero.mpr]
    · rfl
    · intro row member
      have other : row.instanceId ≠ args.instanceId := by simpa using unnamed row member
      simp [other]
  | some was =>
    obtain ⟨wasMember, wasNamed⟩ := Table.mem_of_find? found
    rw [Option.any_some, Bool.eq_iff_iff, decide_eq_true_eq, List.countP_pos_iff]
    constructor
    · rintro ⟨row, member, matched⟩
      by_cases named : row.instanceId = args.instanceId
      · have isWas : row = was := Table.eq_of_column List.mem_cons_self member wasMember
          (named.trans (beq_iff_eq.mp wasNamed).symm)
        simpa [named, isWas, beq_iff_eq.mp wasNamed] using matched
      · simp [named] at matched
    · intro ready
      exact ⟨was, wasMember, by simp [beq_iff_eq.mp wasNamed, ready]⟩

/-- An operation id names one row, so a guarded update hits it once or not at all. -/
theorem settleOperation_missed {args : FinishArgs}
    (missed : journal.countOperation args.opId inFlight ≠ 1) :
    journal.settleOperation args nowMs = journal := by
  have none_ : journal.operations.count (fun op => op.opId == args.opId && inFlight op) = 0 := by
    by_contra some_
    obtain ⟨op, member, matched⟩ := List.countP_pos_iff.mp (Nat.pos_of_ne_zero some_)
    refine missed (Nat.le_antisymm ?_ (Nat.pos_of_ne_zero some_))
    have named : ∀ row ∈ journal.operations.rows,
        (row.opId == args.opId && inFlight row) = true → row.opId = op.opId := by
      intro row _ hit
      simp only [Bool.and_eq_true, beq_iff_eq] at hit matched
      exact hit.1.trans matched.1.symm
    have rowsNodup := journal.operations.unique OperationRow.opId List.mem_cons_self
    calc journal.operations.rows.countP (fun row => row.opId == args.opId && inFlight row)
        ≤ journal.operations.rows.countP ((· == op.opId) ∘ OperationRow.opId) :=
          List.countP_mono_left fun row member hit => by simpa using named row member hit
      _ = (journal.operations.rows.map OperationRow.opId).count op.opId := by
          rw [List.count, List.countP_map]
      _ ≤ 1 := List.nodup_iff_count_le_one.mp rowsNodup op.opId
  have unchanged := Table.count_eq_zero.mp none_
  rw [settleOperation, updateOperation, Table.update_none unchanged]

theorem calm_settle {args : FinishArgs} {readinessChanged : Bool} (readiness : readinessChanged =
      (args.clearReady && (journal.getInstance args.instanceId).any InstanceRow.ready)) : calm
        Statement.effect (settle args nowMs (journal.stateOf args.instanceId) readinessChanged)
        ⟨journal, journal.advanceInstance args nowMs⟩ =
      concluded journal (journal.finishOperation args nowMs) := by
  have sameCount : (journal.advanceInstance args nowMs).countOperation args.opId inFlight =
      journal.countOperation args.opId inFlight := rfl
  have sameRead : (journal.advanceInstance args nowMs).getOperation args.opId =
      journal.getOperation args.opId := rfl
  unfold settle Journal.finishOperation
  simp only [← readiness, calm_attempt, Statement.effect, sameCount]
  by_cases settles : journal.countOperation args.opId inFlight = 1
  · simp only [settles, if_true]
    rfl
  · have missed : (journal.advanceInstance args nowMs).settleOperation args nowMs =
        journal.advanceInstance args nowMs := settleOperation_missed settles
    simp only [settles, if_false, calm_attempt, Statement.effect, missed, sameRead]
    by_cases canceled : (journal.getOperation args.opId).map OperationRow.state = some .canceled
    · simp only [canceled, ne_eq, not_true_eq_false, if_false, stateOf]
      cases journal.getInstance args.instanceId with
      | none => rfl
      | some row =>
        simp only [Option.map_some]
        by_cases legal : row.state = args.state ∨ row.state.canTransition args.state = true
        · simp only [legal, if_true, calm_attempt, Statement.effect]
          rfl
        · simp only [legal, if_false]
          rfl
    · simp only [canceled, ne_eq, not_false_eq_true, if_true]
      rfl

theorem calm_finishOperation (args : FinishArgs) :
    calm Statement.effect (finishOperation args nowMs) ⟨journal, journal⟩ =
      concluded journal (journal.finishOperation args nowMs) := by
  unfold finishOperation
  simp only [calm_attempt, Statement.effect]
  by_cases clears : args.clearReady = true
  · have cleared := advancing_cleared journal args nowMs clears
    have ready := advancing_ready journal args nowMs
    unfold advancing at cleared ready
    simp only [clears, if_true, calm_attempt, Statement.effect, cleared, ready]
    exact calm_settle (by simp [clears])
  · have keeps : args.clearReady = false := by simpa using clears
    have advanced := advancing_eq journal args nowMs keeps
    unfold advancing at advanced
    simp only [clears, advanced]
    exact calm_settle (by simp [keeps])

end Calm

/-! ### Under any faults -/

theorem submitAtomically_refines (args : SubmitArgs) (nowMs : Int) (journal : Journal)
    (faults : Nat → Option String) :
    run Statement.effect faults (submitAtomically args nowMs) journal =
        concluded journal (journal.submitAtomically args nowMs) ∨
      ∃ cause, run Statement.effect faults (submitAtomically args nowMs) journal =
        (.error cause, journal) := by
  rw [← calm_submitAtomically]
  exact (submitAtomically_strict args nowMs).outcome faults 0 _

theorem finishOperation_refines (args : FinishArgs) (nowMs : Int) (journal : Journal)
    (faults : Nat → Option String) :
    run Statement.effect faults (finishOperation args nowMs) journal =
        concluded journal (journal.finishOperation args nowMs) ∨
      ∃ cause, run Statement.effect faults (finishOperation args nowMs) journal =
        (.error cause, journal) := by
  rw [← calm_finishOperation]
  exact (finishOperation_strict args nowMs).outcome faults 0 _

end Db

theorem Journal.submitAtomically_refused {journal next : Journal} {args : SubmitArgs} {nowMs : Int}
    {submission : Submission}
    (submitted : journal.submitAtomically args nowMs = .ok (submission, next))
    (refused : ∀ recorded, submission ≠ .journaled recorded) : next = journal := by
  rcases submitAtomically_cases submitted with ⟨same, -⟩ | ⟨recorded, _, shape, -⟩
  · exact same
  · exact absurd shape (refused recorded)

/-! ### A refused submission -/

open Prog (Ran Emits ran_pure ran_step ran_bind)

/-- An exchange that leaves every table of the journal as it was, whatever else runs. -/
def Spares (exchange : Exchange NodeSig) : Prop :=
  ∀ etags index choice before after,
    (nodeMachine etags).exec index exchange.act choice before = some (exchange.answer, after) →
      after.journal = before.journal

def Reads (act : NodeAct) : Prop := ∀ answer, Spares ⟨act, answer⟩

theorem reads_query {query : Query}
    (kept : ∀ nowMs journal answer next, query.run nowMs journal = .ok (answer, next) →
      next = journal) : Reads (.journal query) := by
  intro answer etags index choice before after executed
  rcases query_cases executed with ⟨_, -, rfl⟩ | ⟨_, journal, -, ran, rfl⟩
  · rfl
  · exact kept _ _ _ _ ran

theorem reads_consult {act : NodeAct} (isConsult : act.isConsult = true) : Reads act := by
  by_cases isQuery : ∃ query, act = .journal query
  · obtain ⟨query, rfl⟩ := isQuery
    cases query with
    | getInstance | getSnapshot | snapshotNamed =>
      exact reads_query fun _ _ _ _ ran => by cases ran; rfl
    | _ => cases isConsult
  · intro answer etags index choice before after executed
    exact exec_journal executed fun query same => isQuery ⟨query, same⟩

theorem consults_read {α : Type} {program : NodeProg α} (consults : Consults program) :
    program.Emits Reads :=
  Emits.mono (fun _ => reads_consult) consults

theorem spares_submission {args : SubmitArgs} {answer : Except String Submission}
    (refused : ∀ recorded, answer ≠ .ok (.journaled recorded)) :
    Spares ⟨.journal (.submitAtomically args), answer⟩ := by
  intro etags index choice before after executed
  rcases query_cases executed with ⟨_, -, rfl⟩ | ⟨submission, journal, isOk, ran, rfl⟩
  · rfl
  · refine submitAtomically_refused ran fun recorded shape => ?_
    rw [shape] at isOk
    exact refused recorded isOk

variable {kind : OpKind} {payload : OpPayload} {announce : String → List EventRow}
  {trace : NodeTrace} {value : Except SubmitError ClaimedSubmission}

theorem launch_submitted {op : OperationRow} {recorded : InstanceState}
    (ran : Ran (launch kind op payload recorded announce) trace value) :
    value = .ok (.submitted op) := by
  obtain ⟨_, _, _, -, -, afterAnnounce⟩ := ran_bind ran
  obtain ⟨_, _, _, -, -, afterEvent⟩ := ran_bind afterAnnounce
  obtain ⟨_, _, -, returned⟩ := ran_step afterEvent
  exact (ran_pure returned).2

def conclude (kind : OpKind) (instanceId : String) (payload : OpPayload)
    (announce : String → List EventRow) (op : OperationRow) :
    Except String Submission → NodeProg (Except SubmitError ClaimedSubmission)
  | .error cause => return .error (internal cause)
  | .ok (.replay original) => checkReplay kind instanceId payload original
  | .ok .conflict =>
    return .error ⟨.concurrentOperation, s!"an operation is already in flight for {instanceId}"⟩
  | .ok (.rejected message) => return .error ⟨.invalidSpec, message⟩
  | .ok .claimSuperseded => return .ok .superseded
  | .ok (.journaled recorded) => launch kind op payload recorded announce

/-- **Everything a submission can do.** It is refused before its transaction, having only read,
or it ends as the answer of its transaction decides. -/
theorem submitClaiming_ran {agent : Agent} {instanceId key : String} {claim : Option Claim}
    (ran : Ran (submitClaiming agent kind instanceId key payload claim announce) trace value) :
    ((∀ exchange ∈ trace, Reads exchange.act) ∧ ∃ refusal, value = .error refusal ∧
      (key = "" ∨ (∃ minting, Ran (guestTokenFor payload) minting (.error refusal)) ∨
        ∃ checking, Ran (preflight agent instanceId payload) checking (some refusal))) ∨
    ∃ opId guestToken createdAtMs early answer rest, trace = early ++ ⟨.journal (.submitAtomically
        (submitArgs agent kind instanceId key payload claim opId guestToken createdAtMs)),
          answer⟩ :: rest ∧
      (∀ exchange ∈ early, Reads exchange.act) ∧
      Ran (conclude kind instanceId payload announce (Journal.newOperation
        (submitArgs agent kind instanceId key payload claim opId guestToken createdAtMs)) answer)
        rest value := by
  unfold submitClaiming at ran
  split at ran
  · next keyless =>
      obtain ⟨rfl, rfl⟩ := ran_pure ran
      exact .inl ⟨by simp, _, rfl, .inl keyless⟩
  obtain ⟨minting, token, afterMinting, rfl, minted, withToken⟩ := ran_bind ran
  have mintingReads := ((consults_read (Consults.guestTokenFor payload)).after minted).1
  split at withToken
  · obtain ⟨rfl, rfl⟩ := ran_pure withToken
    exact .inl ⟨by simpa using mintingReads, _, rfl, .inr (.inl ⟨_, minted⟩)⟩
  next guestToken =>
  obtain ⟨opId, afterUlid, rfl, withUlid⟩ := ran_step withToken
  obtain ⟨createdAtMs, afterClock, rfl, withClock⟩ := ran_step withUlid
  rw [Prog.pure_bind] at withClock
  obtain ⟨checking, refusal, afterChecks, rfl, checked, allowed⟩ := ran_bind withClock
  have checkingReads := ((consults_read (Consults.preflight instanceId payload)).after checked).1
  have earlyReads : ∀ exchange ∈ minting ++ ⟨.ulid, opId⟩ :: ⟨.now, createdAtMs⟩ :: checking,
      Reads exchange.act :=
    List.forall_mem_append.mpr ⟨mintingReads, List.forall_mem_cons.mpr ⟨reads_consult rfl,
      List.forall_mem_cons.mpr ⟨reads_consult rfl, checkingReads⟩⟩⟩
  split at allowed
  · obtain ⟨rfl, rfl⟩ := ran_pure allowed
    exact .inl ⟨by simpa using earlyReads, _, rfl, .inr (.inr ⟨_, checked⟩)⟩
  obtain ⟨answer, afterSubmission, rfl, answered⟩ := ran_step allowed
  refine .inr ⟨opId, guestToken, createdAtMs, _, answer, afterSubmission, ?_, earlyReads, ?_⟩
  · simp only [List.append_assoc, List.cons_append]
  · rcases answer with cause | submission
    · exact answered
    · cases submission <;> exact answered

theorem submitClaiming_spares {agent : Agent} {instanceId key : String} {claim : Option Claim}
    (ran : Ran (submitClaiming agent kind instanceId key payload claim announce) trace value)
    (refused : ∀ op, value ≠ .ok (.submitted op)) : ∀ exchange ∈ trace, Spares exchange := by
  rcases submitClaiming_ran ran with
    ⟨reads, -⟩ | ⟨opId, guestToken, createdAtMs, early, answer, rest, rfl, earlyReads, answered⟩
  · exact fun exchange member => reads exchange member _
  refine List.forall_mem_append.mpr ⟨fun exchange member => earlyReads exchange member _, ?_⟩
  -- The one write of the call: had it been journaled, the call would have returned the operation.
  rcases answer with cause | submission
  · rw [(ran_pure answered).1]
    exact List.forall_mem_singleton.mpr (spares_submission nofun)
  · cases submission with
    | journaled recorded => exact absurd (launch_submitted answered) (refused _)
    | replay original =>
      have replayReads := ((consults_read
        (Consults.checkReplay kind instanceId payload original)).after answered).1
      exact List.forall_mem_cons.mpr ⟨spares_submission nofun,
        fun exchange member => replayReads exchange member _⟩
    | conflict =>
      rw [(ran_pure answered).1]
      exact List.forall_mem_singleton.mpr (spares_submission nofun)
    | rejected message =>
      rw [(ran_pure answered).1]
      exact List.forall_mem_singleton.mpr (spares_submission nofun)
    | claimSuperseded =>
      rw [(ran_pure answered).1]
      exact List.forall_mem_singleton.mpr (spares_submission nofun)

/-- **Refusal and failure atomicity.** A submission's transaction that fails at any of its
statements, or answers anything but that it journaled the operation, leaves every table as it
was; so does a finalize that returns an error; and of a whole submission that ends in an error
or superseded, no action changed a table, whatever ran in between. -/
theorem refusal_atomicity :
    (∀ (journal : Journal) (args : SubmitArgs) (nowMs : Int) (faults : Nat → Option String),
      (∀ recorded, (run Statement.effect faults (Db.submitAtomically args nowMs) journal).1 ≠
        .ok (.journaled recorded)) →
      (run Statement.effect faults (Db.submitAtomically args nowMs) journal).2 = journal) ∧
    (∀ (journal : Journal) (args : FinishArgs) (nowMs : Int) (faults : Nat → Option String) cause,
      (run Statement.effect faults (Db.finishOperation args nowMs) journal).1 = .error cause →
      (run Statement.effect faults (Db.finishOperation args nowMs) journal).2 = journal) ∧
    ∀ (agent : Agent) kind instanceId key payload claim announce trace value,
      Ran (submitClaiming agent kind instanceId key payload claim announce) trace value →
      (value = .ok .superseded ∨ ∃ refusal, value = .error refusal) → ∀ exchange ∈ trace,
        Spares exchange := by
  refine ⟨fun journal args nowMs faults refused => ?_,
    fun journal args nowMs faults cause failed => ?_, ?_⟩
  · rcases Db.submitAtomically_refines args nowMs journal faults with ended | ⟨_, ended⟩
    · rw [ended] at refused ⊢
      cases submitted : journal.submitAtomically args nowMs with
      | error cause => rfl
      | ok result =>
        rw [submitted] at refused
        refine Journal.submitAtomically_refused submitted fun recorded shape => ?_
        exact refused recorded (congrArg Except.ok shape)
    · rw [ended]
  · rcases Db.finishOperation_refines args nowMs journal faults with ended | ⟨_, ended⟩
    · rw [ended] at failed ⊢
      cases finished : journal.finishOperation args nowMs with
      | error cause => rfl
      | ok result =>
        rw [finished] at failed
        cases failed
    · rw [ended]
  · intro agent kind instanceId key payload claim announce trace value ran ended
    refine submitClaiming_spares ran fun op submitted => ?_
    rcases ended with superseded | ⟨refusal, refused⟩
    · rw [superseded] at submitted
      cases submitted
    · rw [refused] at submitted
      cases submitted

/-- A create whose last statement the disk refuses, a finalize of an operation that is not
there, and a start that meets another operation on its instance. -/
theorem refusal_atomicity_failures :
    (run Statement.effect (fun position => if position = 4 then some "disk full" else none)
      (Db.submitAtomically aCreate 0) Journal.empty).2 = Journal.empty ∧
      (run Statement.effect (fun _ => none)
      (Db.finishOperation ⟨"op", ulid, .created, none, none, false, "", .ok ()⟩ 0)
        Journal.empty).2 = Journal.empty ∧ Spares ⟨.journal (.submitAtomically
      (submitArgs .plain .start ulid "key" .start none "op" "" 0)), .ok .conflict⟩ :=
  ⟨refusal_atomicity.1 _ _ _ _ fun _ => nofun, refusal_atomicity.2.1 _ _ _ _ _ rfl,
    refusal_atomicity.2.2 .plain .start ulid "key" .start none (fun _ => [])
      [⟨.ulid, "op"⟩, ⟨.now, (0 : Int)⟩, ⟨.journal (.submitAtomically
        (submitArgs .plain .start ulid "key" .start none "op" "" 0)), .ok .conflict⟩] _
      (.step (.step (.step (.refl _)))) (.inr ⟨_, rfl⟩) _ (by simp)⟩

end Barista.Node
