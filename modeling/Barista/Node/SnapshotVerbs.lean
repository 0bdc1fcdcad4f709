import Barista.Node.Finishing

/-!
Contract: what a snapshot verb does to the instance it names.

Deleting a snapshot, and capturing a paused instance, move nothing. Their executors write nothing of
the instance's until they finalize; the finalize is the one of every verb, writes the state, the
deadline, the stop reason and the readiness again, and announces a change of state whenever it was
taken.

Owns: the columns of an instance along the execution of a snapshot verb, and what it announces. Does
not own: the snapshot itself.
-/

namespace Barista.Node

open Foundation Fleet
open Prog (Emits Ran ran_bind ran_step ran_pure)

variable {agent : Agent} {op : OperationRow} {executor : Executor} {journal next last : Journal}
  {trace : NodeTrace} {id : String}

/-! ### The columns a verb may leave alone -/

structure Situation where
  state : InstanceState
  ready : Bool
  ttlDeadlineMs : Option Int
  wakeAtMs : Option Int
  stopReason : Option StopReason
  executionEpoch : Nat
deriving DecidableEq

def InstanceRow.situation (row : InstanceRow) : Situation :=
  ⟨row.state, row.ready, row.ttlDeadlineMs, row.wakeAtMs, row.stopReason, row.executionEpoch⟩

def Journal.situationOf (journal : Journal) (id : String) : Option Situation :=
  (journal.getInstance id).map InstanceRow.situation

theorem Query.run_undisturbed {query : Query} {nowMs : Int} {answer : query.Answer}
    (ran : query.run nowMs journal = .ok (answer, next)) (undisturbing : query.disturbs = false)
    (id : String) : next.situationOf id = journal.situationOf id := by
  unfold Journal.situationOf
  rcases run_row ran id with same | ⟨old, new, read, written, touches⟩ | ⟨args, _, _, rfl, -⟩
  · rw [same]
  · rw [read, written]
    cases query with
    | setRunEpoch | forgetCredentials | insertSnapshot | deleteSnapshot =>
      obtain ⟨-, rfl⟩ := touches
      rfl
    | submitAtomically | finishOperation | setInstanceState | setInstanceReady | setTtlDeadline
    | setWakeAt | claimWake | setInstanceEpoch => cases undisturbing
    | _ => exact touches.elim
  · cases undisturbing

/-! ### A journal along a trace -/

/-- What an exchange does to the journal: a query that is taken is its transaction. -/
inductive Meets : Journal → Exchange NodeSig → Journal → Prop
  | taken {journal next : Journal} {query : Query} {nowMs : Int} {answer : query.Answer}
      (ran : query.run nowMs journal = .ok (answer, next)) :
      Meets journal ⟨.journal query, .ok answer⟩ next
  | refused {journal : Journal} {query : Query} {cause : String} :
      Meets journal ⟨.journal query, .error cause⟩ journal
  | elsewhere {journal : Journal} {act : NodeAct} {answer : NodeSig.Ans act}
      (other : ∀ query, act ≠ .journal query) : Meets journal ⟨act, answer⟩ journal

/-- A journal while a task makes these exchanges, and others write what leaves the situation of an
instance alone. -/
inductive Unfolds (id : String) : Journal → NodeTrace → Journal → Prop
  | done (journal : Journal) : Unfolds id journal [] journal
  | meanwhile {journal later last : Journal} {trace : NodeTrace}
      (untouched : later.situationOf id = journal.situationOf id)
      (rest : Unfolds id later trace last) : Unfolds id journal trace last
  | exchange {journal next last : Journal} {made : Exchange NodeSig}
      {trace : NodeTrace} (meets : Meets journal made next)
      (rest : Unfolds id next trace last) : Unfolds id journal (made :: trace) last

theorem Unfolds.kept (unfolds : Unfolds id journal trace last)
    (spared : ∀ query answer, ⟨.journal query, .ok answer⟩ ∈ trace → query.disturbs = false) :
    last.situationOf id = journal.situationOf id := by
  induction unfolds with
  | done journal => rfl
  | meanwhile untouched rest ih =>
    exact (ih spared).trans untouched
  | exchange meets rest ih =>
    have later := ih fun query answer member =>
      spared query answer (List.mem_cons_of_mem _ member)
    cases meets with
    | taken ran => exact later.trans (Query.run_undisturbed ran (spared _ _ List.mem_cons_self) id)
    | refused | elsewhere => exact later

theorem unfolds_solo {etags : LeaseVersioning} {index : Nat} {choice : NodeAct → Choice}
    {α : Type} {program : NodeProg α} {world after : World} {value : α}
    (alone : program.solo (nodeMachine etags) index choice world = some (trace, value, after)) :
    Unfolds id world.journal trace after.journal := by
  induction program generalizing world trace with
  | pure result =>
    cases alone
    exact .done _
  | step act next ih =>
    obtain ⟨answer, middle, rest, executed, rfl, remaining⟩ := Prog.solo_step alone
    refine .exchange ?_ (ih answer remaining)
    by_cases isQuery : ∃ query, act = .journal query
    · obtain ⟨query, rfl⟩ := isQuery
      rcases query_cases executed with ⟨cause, rfl, rfl⟩ | ⟨result, journal, rfl, ran, rfl⟩
      · exact .refused
      · exact .taken ran
    · have other : ∀ query, act ≠ .journal query := fun query same => isQuery ⟨query, same⟩
      rw [exec_journal executed other]
      exact .elsewhere other

/-! ### Programs that leave an instance alone -/

def Discreet {α : Type} (program : NodeProg α) : Prop :=
  program.Emits fun act : NodeAct => act.isDiscreet = true

namespace Discreet

variable {α β : Type}

theorem pure {value : α} : Discreet (.pure value : NodeProg α) := trivial

theorem record {event : EventRow} (other : event.type ≠ .stateChanged) :
    Discreet (Events.record event) :=
  ⟨by simp [NodeAct.isDiscreet, other], fun _ => trivial⟩

theorem keeping {program : NodeProg α} (keeping : Keeping program) : Discreet program := by
  refine Emits.mono (fun act isKeeping => ?_) keeping
  cases act with
  | journal query => cases query <;> first | rfl | cases isKeeping
  | _ => rfl

theorem performs {program : NodeProg α} {P : NodeAct → Prop} (performs : Performs P program) :
    Discreet program :=
  Emits.mono (fun _ holds => holds.1.2) performs

theorem consults {program : NodeProg α} (consults : Consults program) : Discreet program :=
  performs (P := fun _ => False) (Performs.consults consults)

end Discreet

/-! ### The execution of a snapshot verb -/

/-- The executor of a `DeleteSnapshot`, or of a `CreateSnapshot` that found its instance paused. -/
inductive SnapshotVerb : Executor → Prop
  | delete (op : OperationRow) (snapshotId : String) (recorded : InstanceState) :
      SnapshotVerb ⟨.deleteSnapshot, op, .deleteSnapshot snapshotId, recorded⟩
  | capturePaused (op : OperationRow) (name : Option String) :
      SnapshotVerb ⟨.createSnapshot, op, .createSnapshot name, .paused⟩

namespace SnapshotVerb

theorem rotateEpoch (verb : SnapshotVerb executor) :
    rotateEpoch executor.kind executor.op.instanceId = .pure (.ok none) := by
  unfold Node.rotateEpoch
  cases verb <;> exact if_neg (by simp)

theorem executed (verb : SnapshotVerb executor) (ran : Ran (execute agent executor) trace ()) :
    Nonempty (Executed agent executor trace) := by
  rcases execute_ran ran with executed | ⟨rotating, message, -, refused⟩
  · exact executed
  · rw [verb.rotateEpoch] at refused
    cases (ran_pure refused).2

theorem before (verb : SnapshotVerb executor) (executed : Executed agent executor trace) :
    ∃ early, trace = early ++ ⟨.journal (.finishOperation executed.finalizing.args),
        executed.finalizing.answer⟩ :: executed.finalizing.closing ∧
      ∀ exchange ∈ early, exchange.act.isDiscreet = true := by
  obtain ⟨rotating, stamping, working, finishing, epoch, work, split, rotated, stamped, worked,
    finalizing⟩ := executed
  obtain ⟨stepping, arming, explaining, compensating, closing, deadline, stopReason,
    reported, answer,
    parts, stepped, armed, explained, compensated, closed⟩ := finalizing
  subst parts
  subst split
  refine ⟨rotating ++ (stamping ++ (working ++ (stepping ++ (arming ++ (explaining ++
    compensating))))), by simp [Finalizing.args], ?_⟩
  have part {α : Type} {program : NodeProg α} {made : NodeTrace} {value : α}
      (discreet : Discreet program) (ran : Ran program made value) :
      ∀ exchange ∈ made, exchange.act.isDiscreet = true := (discreet.after ran).1
  have rotates : Discreet (Node.rotateEpoch executor.kind executor.op.instanceId) := by
    rw [verb.rotateEpoch]
    exact .pure
  simp only [List.forall_mem_append]
  exact ⟨part rotates rotated, part (.keeping (.stamp _)) stamped,
    part (.performs (Performs.runPayload ..)) worked,
    part (.performs (P := fun _ => False) (Performs.step ..)) stepped,
    part (.consults (Consults.deadlineFor ..)) armed,
      part (.consults (Consults.stopReasonFor ..)) explained,
    part (.performs (Performs.compensate ..)) compensated⟩

end SnapshotVerb

theorem Executed.announces (executed : Executed agent executor trace) {finalized : Finalized}
    (taken : executed.finalizing.answer = .ok finalized) :
    ∃ event answer, ⟨.journal (.insertEvent event), answer⟩ ∈ trace ∧
      event.type = .stateChanged ∧ event.instanceId = executor.op.instanceId := by
  have closed := executed.finalizing.closed
  rw [taken] at closed
  obtain ⟨_, ⟨⟩, _, parts, -, announcing⟩ := ran_bind closed
  obtain ⟨_, ⟨⟩, _, rfl, announced, -⟩ := ran_bind announcing
  obtain ⟨answer, _, rfl, -⟩ := ran_step announced
  refine ⟨_, answer, executed.ends (executed.finalizing.closes ?_), rfl, rfl⟩
  rw [parts]
  simp

theorem Finalizing.refused_discreet {kind : OpKind} {recorded : InstanceState} {epoch : Option Nat}
    {work : Work} (finalizing : Finalizing agent kind op recorded epoch work trace) {cause : String}
    (refused : finalizing.answer = .error cause) :
    ∀ exchange ∈ finalizing.closing, exchange.act.isDiscreet = true := by
  have closed := finalizing.closed
  rw [refused] at closed
  have reports : Discreet (closeFinalize op (settledState kind recorded work.result)
      finalizing.stopReason epoch finalizing.reported.result.isOk (.error cause)) :=
    .record nofun
  exact (reports.after closed).1

/-! ### Leaving the instance alone -/

structure LeftAlone (id : String) (journal last : Journal) (trace : NodeTrace) :
    Prop where
  kept : last.situationOf id = journal.situationOf id
  silent : ∀ event answer, ⟨.journal (.insertEvent event), answer⟩ ∈ trace →
    event.type ≠ .stateChanged

theorem undisturbing {query : Query} (discreet : (NodeAct.journal query).isDiscreet = true) :
    query.disturbs = false := by
  cases query <;> first | rfl | cases discreet

/-- **When a snapshot verb leaves its instance alone.** Of the executions of a `DeleteSnapshot`, and
of a `CreateSnapshot` of a paused instance, that come to their end while no other writer touches the
instance, those leave its state, readiness, deadlines, stop reason and epoch as they were and announce
no change of state whose finalize the journal refuses. Whenever the finalize is taken, on success, on
failure or after a cancellation, a change of state is announced. -/
theorem snapshot_verb_leaves_alone_iff (agent : Agent) (executor : Executor)
    (journal last : Journal) (trace : NodeTrace) (verb : SnapshotVerb executor)
    (ran : Ran (execute agent executor) trace ())
    (unfolds : Unfolds executor.op.instanceId journal trace last) :
    LeftAlone executor.op.instanceId journal last trace ↔
      ∃ args cause, ⟨.journal (.finishOperation args), .error cause⟩ ∈ trace := by
  obtain ⟨executed⟩ := verb.executed ran
  constructor
  · intro alone
    have finished := executed.finishes
    cases answered : executed.finalizing.answer with
    | ok finalized =>
      obtain ⟨event, answer, member, changed, -⟩ := executed.announces answered
      exact absurd changed (alone.silent event answer member)
    | error cause =>
      rw [answered] at finished
      exact ⟨_, cause, finished⟩
  · rintro ⟨args, cause, refused⟩
    have answered := (executed.finish_only refused).2.symm
    obtain ⟨early, split, before⟩ := verb.before executed
    have discreet : ∀ exchange ∈ trace, exchange.act.isDiscreet = true ∨
        exchange = ⟨.journal (.finishOperation executed.finalizing.args), .error cause⟩ := by
      intro exchange member
      rw [split, answered, List.mem_append, List.mem_cons] at member
      rcases member with inEarly | isFinish | inClosing
      · exact .inl (before exchange inEarly)
      · exact .inr isFinish
      · exact .inl (executed.finalizing.refused_discreet answered exchange inClosing)
    constructor
    · refine unfolds.kept fun query answer member => ?_
      rcases discreet _ member with isDiscreet | isFinish
      · exact undisturbing isDiscreet
      · cases isFinish
    · intro event answer member
      rcases discreet _ member with isDiscreet | isFinish
      · simpa [NodeAct.isDiscreet] using isDiscreet
      · cases isFinish

/-! ### A deletion that postpones an expiry -/

def expiringRow : InstanceRow :=
  ⟨ulid, .pinned ulid 60, .running, true, "", 0, 0, some 6000, "s", "", none, none, none,
    none, none, 1⟩

def deletion : Executor where
  kind := .deleteSnapshot
  op := ⟨"o", .deleteSnapshot, ulid, "k", "", .running, "", .unspecified, "", "", 0, none, false,
    .unspecified, true⟩
  payload := .deleteSnapshot "s"
  recorded := .running

/-- A node whose journal holds the instance and the operation in flight. -/
def expiringNode : World :=
  { World.initial with
    stage := .alone
    journal := { Journal.empty with
      instances := ⟨[expiringRow], by decide⟩
      snapshots := ⟨[⟨"s", ulid, .memoryAndDisk, "", "", "", .local_, 0, ""⟩], by decide⟩
      operations := ⟨[deletion.op], by decide⟩ } }

def announcesChange : Exchange NodeSig → Bool
  | ⟨.journal (.insertEvent event), _⟩ => event.type = .stateChanged
  | _ => false

def NodeAct.isFinish : NodeAct → Bool
  | .journal (.finishOperation _) => true
  | _ => false

def journalRefuses : Exchange NodeSig → Bool
  | ⟨.journal _, .error _⟩ => true
  | _ => false

/-- Every call is taken but the finalize. -/
def finishRefused (act : NodeAct) : Choice :=
  if act.isFinish then { Choice.calm 5000 0 with journalError := some "locked" } else .calm 5000 0

/-- A deletion that removes the snapshot and its row, and whose finalize alone the journal refuses,
leaves the instance alone. -/
theorem refused_finalize_leaves_alone : ∃ trace after, Ran (execute .plain deletion) trace () ∧
      Unfolds ulid expiringNode.journal trace after ∧
      (∀ exchange ∈ trace, journalRefuses exchange = exchange.act.isFinish) ∧
      (expiringNode.journal.getSnapshot "s").isSome ∧ after.getSnapshot "s" = none ∧
      LeftAlone ulid expiringNode.journal after trace := by
  have runs : (((execute .plain deletion).solo (nodeMachine freshVersions) 0 finishRefused
      expiringNode).any fun result =>
        (∀ exchange ∈ result.1, journalRefuses exchange = exchange.act.isFinish) ∧
        result.2.2.journal.getSnapshot "s" = none ∧
        result.1.any (fun exchange => exchange.act.isFinish)) = true := by
    decide +kernel
  obtain ⟨⟨trace, ⟨⟩, after⟩, alone, only, gone, finishes⟩ := exists_of_any runs
  have ran := Prog.ran_solo alone
  have unfolds : Unfolds ulid expiringNode.journal trace after.journal := unfolds_solo alone
  refine ⟨trace, after.journal, ran, unfolds, only, rfl, gone,
    (snapshot_verb_leaves_alone_iff .plain
    deletion expiringNode.journal after.journal trace (.delete ..) ran unfolds).mpr ?_⟩
  obtain ⟨exchange, member, finish⟩ := List.any_eq_true.mp finishes
  have refused := (only exchange member).trans finish
  unfold journalRefuses at refused
  split at refused
  · next query cause =>
      cases query with
      | finishOperation args => exact ⟨args, cause, member⟩
      | _ => cases finish
  · cases refused

/-- **A snapshot of a running instance is deleted a second before the instance expires**: the deletion
succeeds, announces a change to the state the instance was in, and puts its deadline off by a
minute. -/
theorem deletion_postpones_expiry : ∃ trace after, Ran (execute .plain deletion) trace () ∧
      Unfolds ulid expiringNode.journal trace after ∧ trace.any announcesChange = true ∧
      (expiringNode.journal.situationOf ulid).map Situation.ttlDeadlineMs = some (some 6000) ∧
      (after.situationOf ulid).map Situation.ttlDeadlineMs = some (some 65000) ∧
      ¬ LeftAlone ulid expiringNode.journal after trace := by
  have runs : (((execute .plain deletion).solo (nodeMachine freshVersions) 0
      (fun _ => .calm 5000 0) expiringNode).any fun result => result.1.any announcesChange ∧
        (result.2.2.journal.situationOf ulid).map Situation.ttlDeadlineMs = some (some 65000)) =
      true := by
    decide +kernel
  obtain ⟨⟨trace, ⟨⟩, after⟩, alone, announced, postponed⟩ := exists_of_any runs
  have armed : (expiringNode.journal.situationOf ulid).map Situation.ttlDeadlineMs = some
    (some 6000) := rfl
  refine ⟨trace, after.journal, Prog.ran_solo alone, unfolds_solo alone, announced,
    armed, postponed, fun alone => ?_⟩
  rw [alone.kept, armed] at postponed
  cases postponed

end Barista.Node
