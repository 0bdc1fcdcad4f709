import Barista.Foundation.History
import Barista.Node.SnapshotNames

/-!
Contract: what the executors of a pause and of a resume have said and heard.

A pause puts its instance on standby before it journals the capture, does each once, and reports
success only when it has tried to journal it. A resume restores memory only after it has read a
snapshot it may restore, and cold-boots only after it has announced the downgrade.

Owns: the order of what these two executors do, and what they know when they act.
-/

namespace Barista.Node

open Foundation Fleet
open Prog (Emits After Ran Heeds after_bind_step ran_bind ran_step ran_pure)

variable {agent : Agent} {op : OperationRow} {α : Type}

/-! ### The order of a pause -/

/-- An action that puts an instance on standby, or records a snapshot. -/
def NodeAct.isCapture : NodeAct → Bool
  | .runtime (.pause _) | .journal (.insertSnapshot _) => true
  | _ => false

def Plain (program : NodeProg α) : Prop :=
  program.Emits fun act : NodeAct => act.isCapture = false

theorem plain_step (op : OperationRow) (name : String) : Plain (step op name) :=
  ⟨rfl, fun _ => ⟨rfl, fun _ => trivial⟩⟩

theorem plain_degradeAll (op : OperationRow) (messages : List String) :
    Plain (degradeAll op messages) := by
  induction messages with
  | nil => trivial
  | cons message rest ih => exact ⟨rfl, fun _ => ih⟩

/-- A row that records a capture of an instance under the keys of a node. -/
structure Keyed (agent : Agent) (id : String) (snapshot : SnapshotInfo) (row : SnapshotRow) :
    Prop where
  snapshotId : row.snapshotId = snapshot.snapshotId
  instanceId : row.instanceId = id
  kind : row.kind = snapshot.kind
  cpuClass : row.cpuClass = agent.cpuClass
  runtimeBundleRef : row.runtimeBundleRef = agent.runtimeVersion
  tier : row.tier = .local_

/-- What a pause has done before it captures, and before it records its capture. -/
def PauseOrder (agent : Agent) (id : String) (history : NodeTrace) : NodeAct → Prop
  | .runtime (.pause target) =>
    target = id ∧ ∀ exchange ∈ history, exchange.act.isCapture = false
  | .journal (.insertSnapshot row) =>
    (∃ snapshot, ⟨.runtime (.pause id), .ok snapshot⟩ ∈ history ∧ Keyed agent id snapshot row) ∧
      ∀ row answer, ⟨.journal (.insertSnapshot row), answer⟩ ∉ history
  | _ => True

/-- A pause that succeeds has tried to record its capture. -/
def PauseTried (history : NodeTrace) (work : Work) : Prop :=
  work.result = .ok () → ∃ row answer, ⟨.journal (.insertSnapshot row), answer⟩ ∈ history

variable {id : String} {history : NodeTrace}

theorem heeds_plain {A : Exchange NodeSig → Prop} {Q : NodeTrace → Prop}
    {program : NodeProg α} (plain : Plain program)
    (kept : ∀ later : NodeTrace, (∀ exchange ∈ later, exchange.act.isCapture = false) →
      Q (history ++ later)) : program.Heeds A (PauseOrder agent id)
      (fun last _ => Q last) history := by
  refine (Heeds.of_emits plain fun later act _ isPlain => ?_).mono (fun _ _ holds => holds) ?_
  · cases act with
    | runtime call => cases call <;> trivial
    | journal query => cases query <;> trivial
    | _ => trivial
  · rintro last - ⟨later, rfl, isPlain⟩
    exact kept later isPlain

/-- The instance was put on standby, and nothing has been recorded since. -/
def PauseCaptured (id : String) (snapshot : SnapshotInfo) (history : NodeTrace) :
    Prop :=
  ⟨.runtime (.pause id), .ok snapshot⟩ ∈ history ∧
    ∀ row answer, ⟨.journal (.insertSnapshot row), answer⟩ ∉ history

theorem heeds_captured {snapshot : SnapshotInfo} {program : NodeProg α} (plain : Plain program)
    (captured : PauseCaptured id snapshot history) :
    program.Heeds (fun _ => True) (PauseOrder agent id)
      (fun last _ => PauseCaptured id snapshot last) history := by
  refine heeds_plain plain fun later isPlain => ⟨List.mem_append_left _ captured.1, ?_⟩
  intro row answer member
  rcases List.mem_append.mp member with early | late
  · exact captured.2 row answer early
  · cases isPlain _ late

theorem heeds_recordPause {snapshot : SnapshotInfo}
    (captured : PauseCaptured op.instanceId snapshot history) :
    (recordPause agent op snapshot).Heeds (fun _ => True) (PauseOrder agent op.instanceId)
      PauseTried history := by
  have recorded {history : NodeTrace} (captured : PauseCaptured op.instanceId snapshot history) :
      (recordSnapshot agent op.instanceId snapshot "").Heeds (fun _ => True)
        (PauseOrder agent op.instanceId)
        (fun last _ => ∃ row answer, ⟨.journal (.insertSnapshot row), answer⟩ ∈ last) history := by
    refine Heeds.bind (heeds_captured (⟨rfl, fun _ => trivial⟩ : Plain (query _)) captured)
      fun _ found captured =>
      Heeds.bind (heeds_captured (⟨rfl, fun _ => trivial⟩ : Plain clock) captured)
      fun _ createdAtMs captured =>
      ⟨⟨⟨snapshot, captured.1, rfl, rfl, rfl, rfl, rfl, rfl⟩, captured.2⟩, fun answer _ => ?_⟩
    exact ⟨_, answer, List.mem_append_right _ List.mem_cons_self⟩
  refine Heeds.bind (heeds_captured (plain_step ..) captured) fun _ _ captured =>
    Heeds.bind (recorded captured) fun _ outcome tried => ?_
  refine Heeds.bind (heeds_plain (plain_degradeAll ..) fun later _ => ?_) fun _ _ tried _ => tried
  obtain ⟨row, answer, member⟩ := tried
  exact ⟨row, answer, List.mem_append_left _ member⟩

/-- **The order of a pause.** -/
theorem heeds_runPause (op : OperationRow) (requireMemory : Bool) :
    (runPause agent op requireMemory).Heeds (fun _ => True) (PauseOrder agent op.instanceId)
      PauseTried [] := by
  have untouched {β : Type} {history : NodeTrace} {program : NodeProg β}
      (plain : Plain program) (before : ∀ exchange ∈ history, exchange.act.isCapture = false) :
      program.Heeds (fun _ => True) (PauseOrder agent op.instanceId)
        (fun last _ => ∀ exchange ∈ last, exchange.act.isCapture = false) history :=
    heeds_plain plain fun later isPlain exchange member =>
      (List.mem_append.mp member).elim (before exchange) (isPlain exchange)
  refine Heeds.bind (untouched (plain_step ..) (by simp)) fun _ _ before =>
    Heeds.bind (untouched (⟨rfl, fun _ => trivial⟩ : Plain (beyond _)) before) fun _ hook before =>
    Heeds.bind (untouched (plain_degradeAll ..) before) fun _ _ before =>
    Heeds.bind (untouched (plain_step ..) before) fun history _ before =>
    ⟨⟨rfl, before⟩, fun captured _ => ?_⟩
  dsimp only [Prog.pure_bind]
  split
  · next snapshot =>
      split
      · exact nofun
      · refine Heeds.bind (heeds_recordPause ⟨by simp, fun row answer member => ?_⟩)
          fun _ _ tried => tried
        rcases List.mem_append.mp member with early | late
        · cases before _ early
        · cases List.mem_singleton.mp late
  · exact nofun

/-! ### Executors of a pause -/

section Executors

variable {etags : LeaseVersioning} {system : System} {index : Nat}
  {traces : Nat → NodeTrace} {executor : Executor} {role : Role}

theorem Executing.same {other : Nat} {second : Executor} {world : World} (claims : Claims world)
    (first : Executing index executor world) (again : Executing other second world)
    (same : executor.op.instanceId = second.op.instanceId) :
    index = other ∧ executor.op.opId = second.op.opId := by
  obtain ⟨op, member, opId, onInstance, -, active⟩ := first.claimed.journaled
  obtain ⟨op', member', opId', onInstance', -, active'⟩ := again.claimed.journaled
  have one := claims.owned.one_active op member op' member' active active'
    (by rw [onInstance, onInstance', same])
  have sameOp : executor.op.opId = second.op.opId := by rw [← opId, one, opId']
  have charge := first.charge.symm.trans (sameOp ▸ again.charge)
  cases charge
  exact ⟨rfl, sameOp⟩

variable {trace : NodeTrace} {act : NodeAct}

theorem Working.uncaptured (working : Working agent executor trace act)
    {exchange : Exchange NodeSig} (member : exchange ∈ trace) :
    exchange ∈ working.within ∨ exchange.act.isCapture = false := by
  rw [working.split, List.mem_append, List.mem_append] at member
  rcases member with rotating | stamping | within
  · rcases ((rotateEpoch_rotates ..).after working.rotated).1 _ rotating with rotates |
      ⟨_, rotates⟩ <;>
    · rw [rotates]
      exact .inr rfl
  · have custodial := ((Keeping.stamp _).after working.stamped).1 _ stamping
    right
    generalize exchange.act = act at custodial
    cases act with
    | runtime call => cases custodial
    | journal query => cases query <;> first | rfl | cases custodial
    | _ => rfl
  · exact .inl within

theorem Working.inside (working : Working agent executor trace act) : working.within ⊆ trace := by
  intro exchange member
  rw [working.split]
  exact List.mem_append_right _ (List.mem_append_right _ member)

variable {requireMemory : Bool}

theorem Working.pause (working : Working agent executor trace act)
    (pauses : executor.payload = .pause requireMemory) :
    PauseOrder agent executor.op.instanceId working.within act := by
  have works := working.works
  rw [pauses] at works
  exact ((heeds_runPause executor.op requireMemory).after works fun _ _ => trivial).1

variable {id : String}

theorem standby_located (accounted : Accounted agent etags system traces)
    {continuation : Except RuntimeError SnapshotInfo → NodeProg Unit}
    (found : system.tasks[index]? = some ⟨role, .step (.runtime (.pause id)) continuation⟩) :
    ∃ executor requireMemory, role = .executor executor ∧ Executing index executor system.world ∧
      executor.payload = .pause requireMemory ∧ executor.op.instanceId = id ∧
      ∀ exchange ∈ traces index, exchange.act.isCapture = false := by
  have residual := accounted.come found
  obtain ⟨executor, rfl, ⟨working⟩, does⟩ := payload_work residual rfl (by simp)
  obtain ⟨requireMemory, pauses⟩ : ∃ requireMemory, executor.payload = .pause requireMemory := by
    cases payload : executor.payload with
    | pause requireMemory => exact ⟨requireMemory, rfl⟩
    | _ => simp [payload, OpPayload.does, Journals] at does
  obtain ⟨onInstance, before⟩ := working.pause pauses
  refine ⟨executor, requireMemory, rfl, accounted.working found working, pauses,
    onInstance.symm, ?_⟩
  intro exchange member
  rcases working.uncaptured member with within | plain
  · exact before exchange within
  · exact plain

/-- **Who records a snapshot of an instance.** A pause that has captured it and recorded nothing
before, or an operation that was asked for a snapshot. -/
theorem record_located (accounted : Accounted agent etags system traces) {row : SnapshotRow}
    {continuation : Except String Unit → NodeProg Unit} (found : system.tasks[index]? =
      some ⟨.executor executor, .step (.journal (.insertSnapshot row)) continuation⟩)
    (named : row.instanceId ≠ "") :
    Executing index executor system.world ∧ row.instanceId = executor.op.instanceId ∧
      ((∃ requireMemory snapshot, executor.payload = .pause requireMemory ∧
          ⟨.runtime (.pause executor.op.instanceId), .ok snapshot⟩ ∈ traces index ∧
          Keyed agent executor.op.instanceId snapshot row ∧
          ∀ row answer, ⟨.journal (.insertSnapshot row), answer⟩ ∉ traces index) ∨
        ∃ name, executor.payload = .createSnapshot name) := by
  have work : (NodeAct.journal (.insertSnapshot row)).isWork = true := by
    simp [NodeAct.isWork, named]
  rcases execute_work (accounted.come found) work with ⟨⟨working⟩, does⟩ | ⟨compensates, -⟩
  swap
  · cases compensates
  refine ⟨accounted.working found working, ?_⟩
  cases payload : executor.payload with
  | pause requireMemory =>
    obtain ⟨⟨snapshot, captured, keyed⟩, first⟩ := working.pause payload
    refine ⟨keyed.instanceId,
      .inl ⟨requireMemory, snapshot, rfl, working.inside captured, keyed, ?_⟩⟩
    intro row answer member
    rcases working.uncaptured member with within | plain
    · exact first row answer within
    · cases plain
  | createSnapshot name =>
    rw [payload] at does
    rcases does with captures | ⟨_, ⟨⟩, onInstance, -⟩ | ⟨_, deletes⟩
    · cases captures
    · exact ⟨onInstance, .inr ⟨name, rfl⟩⟩
    · cases deletes
  | _ => simp [payload, OpPayload.does] at does

variable {args : FinishArgs} {next : Except String Finalized → NodeProg Unit}

theorem finish_first (reached : After (execute agent executor) trace
      (.step (.journal (.finishOperation args)) next)) : Unfinished trace := by
  have never {β : Type} {P : NodeAct → Prop} {program : NodeProg β} (emits : program.Emits P)
      (other : ∀ args, ¬ P (.journal (.finishOperation args))) :
      program.Emits fun act : NodeAct => ¬ ∃ args, act = .journal (.finishOperation args) := by
    refine emits.mono fun act holds => ?_
    rintro ⟨args, rfl⟩
    exact other args holds
  have announced {settled : InstanceState} {stopReason : Option StopReason} {epoch : Option Nat}
      {succeeded : Bool} {finalized : Finalized} :=
    never (Custodial.announceFinish executor.op settled stopReason epoch succeeded finalized)
      fun _ => nofun
  have loose {β : Type} {program : NodeProg β} (isLoose : Loose program) :=
    never isLoose fun _ => nofun
  have once : (execute agent executor).Once fun act : NodeAct =>
      ∃ args, act = .journal (.finishOperation args) := by
    refine .before (never (rotateEpoch_rotates ..) ?_) fun rotation =>
      .before (never (Keeping.stamp _) fun _ => nofun) fun _ => ?_
    · rintro _ (rotates | ⟨_, rotates⟩) <;> cases rotates
    · split
      · refine .before (loose (Loose.step ..)) fun _ =>
          .finally ⟨fun _ => trivial, fun _ _ => trivial⟩ fun answer => ?_
        split
        · exact announced
        · trivial
      · refine .before (loose (Loose.runPayload ..)) fun _ =>
          .before (loose (Loose.step ..)) fun _ =>
          .before (loose (Consults.deadlineFor ..).aside.loose) fun _ =>
          .before (loose (Consults.stopReasonFor ..).aside.loose) fun _ =>
          .before (loose (Loose.compensate ..)) fun _ =>
          .finally ⟨fun _ => trivial, fun _ _ => trivial⟩ fun answer => ?_
        split
        · exact announced
        · exact loose (Loose.record _)
  intro args' answer member
  exact once.after reached ⟨args, rfl⟩ _ member ⟨args', rfl⟩

theorem finish_worked
    (reached : After (execute agent executor) trace (.step (.journal (.finishOperation args)) next))
    (succeeded : args.outcome = .ok ()) : ∃ epoch working work, working ⊆ trace ∧
    work.result = .ok () ∧
      Ran (runPayload agent executor.op executor.recorded epoch executor.payload) working work := by
  rcases execute_cases reached with
    ⟨⟨working⟩⟩ | ⟨inner, rotates⟩ | ⟨within, inner, stamps⟩ | ⟨message, _, within, inner,
      -, -, closes⟩ |
    ⟨early, epoch, working, work, within, inner, rfl, worked, finalizes⟩
  · cases ((Loose.runPayload ..).after working.works).2.1
  · rcases ((rotateEpoch_rotates ..).after rotates).2.1 with rotates |
      ⟨_, rotates⟩ <;> cases rotates
  · cases ((Keeping.stamp _).after stamps).2.1
  · rcases after_bind_step closes with ⟨_, steps⟩ | ⟨_, _, _, rfl, -, reached⟩
    · cases ((Loose.step ..).after steps).2.1
    · cases reached with
      | refl => cases succeeded
      | step announces =>
        dsimp only [Prog.pure_bind] at announces
        split at announces
        · cases ((Custodial.announceFinish ..).after announces).2.1
        · cases announces
  · rcases after_bind_step finalizes with ⟨_, steps⟩ | ⟨_, _, _, rfl, -, reached⟩
    · cases ((Loose.step ..).after steps).2.1
    rcases after_bind_step reached with ⟨_, reads⟩ | ⟨_, deadline, _, rfl, -, reached⟩
    · cases ((Consults.deadlineFor ..).aside.after reads).2.1.1
    rcases after_bind_step reached with ⟨_, reads⟩ | ⟨_, stopReason, _, rfl, -, reached⟩
    · cases ((Consults.stopReasonFor ..).aside.after reads).2.1.1
    rcases after_bind_step reached with ⟨_, undoes⟩ | ⟨_, reported, _, rfl, compensated, reached⟩
    · cases ((Loose.compensate ..).after undoes).2.1
    cases reached with
    | refl =>
      refine ⟨_, working, work, by simp, ?_, worked⟩
      rw [← compensate_result compensated]
      exact succeeded
    | step announces =>
      dsimp only [Prog.pure_bind] at announces
      split at announces
      · cases ((Custodial.announceFinish ..).after announces).2.1
      · cases ((Loose.record _).after announces).2.1

theorem rotateEpoch_refused {kind : OpKind} {message : String}
    (ran : Ran (rotateEpoch kind id) trace (.error message)) :
    ∃ query cause, ⟨.journal query, .error cause⟩ ∈ trace := by
  unfold rotateEpoch at ran
  split at ran
  · obtain ⟨issued, rest, rfl, binding⟩ := ran_step ran
    cases issued with
    | error cause => exact ⟨_, cause, List.mem_cons_self⟩
    | ok epoch =>
      obtain ⟨bound, _, rfl, returned⟩ := ran_step binding
      cases bound with
      | error cause => exact ⟨_, cause, List.mem_cons_of_mem _ List.mem_cons_self⟩
      | ok _ => cases (ran_pure returned).2
  · cases (ran_pure ran).2

theorem finish_tried
    (reached : After (execute agent executor) trace (.step (.journal (.finishOperation args)) next))
    (pauses : executor.payload = .pause requireMemory) (succeeded : args.outcome = .ok ()) :
    ∃ row answer, ⟨.journal (.insertSnapshot row), answer⟩ ∈ trace := by
  obtain ⟨epoch, working, work, inside, well, worked⟩ := finish_worked reached succeeded
  rw [pauses] at worked
  obtain ⟨row, answer, member⟩ :=
    (heeds_runPause executor.op requireMemory).after worked (fun _ _ => trivial) well
  exact ⟨row, answer, inside member⟩

/-! ### Executors of a resume -/

variable {snapshotId : Option String}

theorem snapshotToRestore_ran {reads : NodeTrace} {snapshot : Option SnapshotRow}
    (ran : Ran (snapshotToRestore id snapshotId) reads snapshot) :
    (∃ named found, snapshotId = some named ∧ ⟨.journal (.getSnapshot named), found⟩ ∈ reads ∧
        snapshot = found.toOption.join) ∨
      (snapshotId = none ∧ ∃ read, ⟨.journal (.getInstance id), read⟩ ∈ reads ∧
        ((read.toOption.join = none ∧ snapshot = none) ∨ ∃ row, read.toOption.join = some row ∧
            ((row.latestSnapshotId = "" ∧ snapshot = none) ∨ (row.latestSnapshotId ≠ "" ∧ ∃ found,
                ⟨.journal (.getSnapshot row.latestSnapshotId), found⟩ ∈ reads ∧
                snapshot = found.toOption.join)))) := by
  cases snapshotId with
  | some named =>
    obtain ⟨found, rest, rfl, returned⟩ := ran_step ran
    exact .inl ⟨named, found, rfl, List.mem_cons_self, (ran_pure returned).2⟩
  | none =>
    obtain ⟨read, rest, rfl, continued⟩ := ran_step ran
    refine .inr ⟨rfl, read, List.mem_cons_self, ?_⟩
    dsimp only [Prog.pure_bind] at continued
    split at continued
    · next absent => exact .inl ⟨absent, (ran_pure continued).2⟩
    · next row present =>
        refine .inr ⟨row, present, ?_⟩
        split at continued
        · next unset => exact .inl ⟨unset, (ran_pure continued).2⟩
        · next set =>
            obtain ⟨found, rest, rfl, returned⟩ := ran_step continued
            exact .inr ⟨set, found, by simp, (ran_pure returned).2⟩

theorem resolveRestore_ran {reads : NodeTrace} {row : Option InstanceRow} {decision : Restore}
    (ran : Ran (resolveRestore agent id snapshotId requireMemory) reads (row, decision)) :
    ∃ early snapshot read, early ⊆ reads ∧ Ran (snapshotToRestore id snapshotId) early snapshot ∧
      ⟨.journal (.getInstance id), read⟩ ∈ reads ∧ row = read.toOption.join ∧
      decision = match row with
        | some row => .decide agent snapshot row requireMemory
        | none => .refuse .unspecified s!"{id} is not in the journal" := by
  obtain ⟨early, snapshot, late, rfl, looked, reading⟩ := ran_bind ran
  obtain ⟨read, rest, rfl, decided⟩ := ran_step reading
  refine ⟨early, snapshot, read, by simp, looked, by simp, ?_⟩
  dsimp only [Prog.pure_bind] at decided
  split at decided
  · next present =>
      cases (ran_pure decided).2
      exact ⟨present.symm, rfl⟩
  · next absent =>
      cases (ran_pure decided).2
      exact ⟨absent.symm, rfl⟩

/-- **What a resume does, and on which decision.** -/
theorem runResume_work {epoch : Nat} {inner : NodeSig.Ans act → NodeProg Work}
    (reached : After (runResume agent op snapshotId requireMemory epoch) trace (.step act inner))
    (work : act.isWork = true) : ∃ reads row decision, reads ⊆ trace ∧
      Ran (resolveRestore agent op.instanceId snapshotId requireMemory) reads (row, decision) ∧
      ((decision = .fromMemory ∧
        act = .runtime (.resume op.instanceId (resumeTarget row snapshotId))) ∨
        ∃ reason why message answer, decision = .coldBoot reason why ∧
          ⟨.journal (.insertEvent (Events.event .degradation op.instanceId op.opId message)),
            answer⟩ ∈ trace ∧
          ∃ spec guest, act = .runtime (.start op.instanceId spec guest)) := by
  have idle {program : NodeProg Unit} {within : NodeTrace}
      {next : NodeSig.Ans act → NodeProg Unit} (aside : Aside program)
      (comes : After program within (.step act next)) : False := by
    cases (aside.after comes).2.1.2.symm.trans work
  rcases after_bind_step reached with ⟨_, steps⟩ | ⟨_, _, rest, rfl, -, reached⟩
  · exact (idle (Performs.step ..).aside steps).elim
  rcases after_bind_step reached with ⟨_, resolves⟩ | ⟨reads, ⟨row, decision⟩, later, rfl,
    resolved, reached⟩
  · cases ((Consults.resolveRestore ..).aside.after resolves).2.1.2.symm.trans work
  refine ⟨reads, row, decision, by simp, resolved, ?_⟩
  dsimp only at reached
  cases decision with
  | fromMemory =>
    rcases after_bind_step reached with ⟨_, steps⟩ | ⟨_, _, _, rfl, -, reached⟩
    · exact (idle (Performs.step ..).aside steps).elim
    cases reached with
    | refl => exact .inl ⟨rfl, rfl⟩
    | step continues =>
      dsimp only [Prog.pure_bind] at continues
      split at continues
      · rcases after_bind_step continues with ⟨_, duties⟩ | ⟨_, _, _, -, -, continues⟩
        · cases duties with
          | refl => cases work
          | step returned => cases returned
        · rcases after_bind_step continues with ⟨_, degrades⟩ | ⟨_, _, _, -, -, returned⟩
          · exact (idle (Performs.degradeAll ..).aside degrades).elim
          · cases returned
      · cases continues
  | coldBoot reason why =>
    rcases after_bind_step reached with ⟨_, steps⟩ | ⟨_, _, _, rfl, -, announces⟩
    · exact (idle (Performs.step ..).aside steps).elim
    rcases after_bind_step announces with ⟨_, records⟩ | ⟨_, _, _, rfl, degraded, boots⟩
    · exact (idle (Aside.record _) records).elim
    obtain ⟨answer, _, rfl, -⟩ := ran_step degraded
    refine .inr ⟨reason, why, _, answer, rfl, by simp, ?_⟩
    cases row with
    | none => cases boots
    | some row =>
      cases boots with
      | refl => exact ⟨_, _, rfl⟩
      | step returned => cases returned
  | refuse => cases reached

theorem runResume_ran {epoch : Nat} {work : Work}
    (ran : Ran (runResume agent op snapshotId requireMemory epoch) trace work) :
    ∃ reads row decision, reads ⊆ trace ∧
      Ran (resolveRestore agent op.instanceId snapshotId requireMemory) reads (row, decision) ∧
      (decision = .fromMemory → ∃ answer,
        ⟨.runtime (.resume op.instanceId (resumeTarget row snapshotId)), answer⟩ ∈ trace) := by
  obtain ⟨_, _, _, rfl, -, resolving⟩ := ran_bind ran
  obtain ⟨reads, ⟨row, decision⟩, _, rfl, resolved, acting⟩ := ran_bind resolving
  refine ⟨reads, row, decision, by simp, resolved, ?_⟩
  rintro rfl
  obtain ⟨_, _, _, rfl, -, resuming⟩ := ran_bind acting
  obtain ⟨answer, _, rfl, -⟩ := ran_step resuming
  exact ⟨answer, by simp⟩

theorem resume_located (accounted : Accounted agent etags system traces)
    {target : Option String} {continuation : Except RuntimeError Unit → NodeProg Unit}
    (found : system.tasks[index]? = some
      ⟨role, .step (.runtime (.resume id target)) continuation⟩) :
    ∃ executor snapshotId requireMemory, role = .executor executor ∧
      executor.payload = .resume snapshotId requireMemory ∧ executor.op.instanceId = id := by
  have residual := accounted.come found
  obtain ⟨executor, rfl, -, does⟩ := payload_work residual rfl (by simp)
  cases payload : executor.payload with
  | resume snapshotId requireMemory =>
    rw [payload] at does
    rcases does with ⟨_, resumes⟩ | ⟨_, _, starts⟩
    · cases resumes
      exact ⟨executor, snapshotId, requireMemory, rfl, payload, rfl⟩
    · cases starts
  | _ => simp [payload, OpPayload.does, Journals] at does

theorem Accounted.calling (accounted : Accounted agent etags system traces)
    {call : RuntimeCall} {continuation : call.Answer → NodeProg Unit}
    (found : system.tasks[index]? = some ⟨.executor executor, .step (.runtime call) continuation⟩) :
    Executing index executor system.world := by
  have executed : (nodeMachine etags).exec index (.runtime call) (.calm 0 0) system.world =
      some ((Choice.calm 0 0).runtime call, system.world) := rfl
  obtain ⟨-, ⟨-, fact⟩, -⟩ := accounted.covered.guar found executed trivial
  exact fact executor rfl

theorem resume_finished
    (reached : After (execute agent executor) trace (.step (.journal (.finishOperation args)) next))
    (resumes : executor.payload = .resume snapshotId requireMemory)
    (answered : ∀ query cause, ⟨.journal query, .error cause⟩ ∉ trace) :
    ∃ reads row decision, reads ⊆ trace ∧
      Ran (resolveRestore agent executor.op.instanceId snapshotId requireMemory) reads
        (row, decision) ∧
      (decision = .fromMemory → ∃ answer,
        ⟨.runtime (.resume executor.op.instanceId (resumeTarget row snapshotId)), answer⟩ ∈
          trace) := by
  rcases execute_cases reached with
    ⟨⟨working⟩⟩ | ⟨inner, rotates⟩ | ⟨within, inner, stamps⟩ |
    ⟨message, rotating, _, _, inside, refused, -⟩ | ⟨early, _, working, work, within, _,
      rfl, worked, -⟩
  · cases ((Loose.runPayload ..).after working.works).2.1
  · rcases ((rotateEpoch_rotates ..).after rotates).2.1 with rotates |
      ⟨_, rotates⟩ <;> cases rotates
  · cases ((Keeping.stamp _).after stamps).2.1
  · obtain ⟨query, cause, member⟩ := rotateEpoch_refused refused
    exact absurd (inside member) (answered query cause)
  · rw [resumes] at worked
    obtain ⟨reads, row, decision, inside, resolved, acted⟩ := runResume_ran worked
    have within : working ⊆ early ++ (working ++ within) := by simp
    refine ⟨reads, row, decision, fun _ member => within (inside member), resolved, ?_⟩
    intro isMemory
    obtain ⟨answer, member⟩ := acted isMemory
    exact ⟨answer, within member⟩

theorem resume_acts (accounted : Accounted agent etags system traces)
    {continuation : NodeSig.Ans act → NodeProg Unit}
    (found : system.tasks[index]? = some ⟨.executor executor, .step act continuation⟩)
    (resumes : executor.payload = .resume snapshotId requireMemory) (work : act.isWork = true) :
    Unfinished (traces index) ∧ ∃ reads row decision, reads ⊆ traces index ∧
      Ran (resolveRestore agent executor.op.instanceId snapshotId requireMemory) reads
        (row, decision) ∧
      ((decision = .fromMemory ∧
          act = .runtime (.resume executor.op.instanceId (resumeTarget row snapshotId))) ∨
        ∃ reason why message answer, decision = .coldBoot reason why ∧
          ⟨.journal (.insertEvent (Events.event .degradation executor.op.instanceId
            executor.op.opId message)), answer⟩ ∈ traces index ∧
          ∃ spec guest, act = .runtime (.start executor.op.instanceId spec guest)) := by
  rcases execute_work (accounted.come found) work with ⟨⟨working⟩, -⟩ | ⟨rfl, creates⟩
  · have works := working.works
    rw [resumes] at works
    obtain ⟨reads, row, decision, inside, resolved, acts⟩ := runResume_work works work
    refine ⟨working.unfinished, reads, row, decision,
      fun _ member => working.inside (inside member), resolved, acts.imp_right ?_⟩
    rintro ⟨reason, why, message, answer, booted, degraded, started⟩
    exact ⟨reason, why, message, answer, booted, working.inside degraded, started⟩
  · have planned := (accounted.calling found).planned.1
    rw [resumes] at planned
    rcases creates with creates | creates <;> cases planned.symm.trans creates

end Executors

/-! ### What a restore decision says -/

theorem Restore.decide_fromMemory {snapshot : SnapshotRow} {row : InstanceRow}
    {requireMemory : Bool} : Restore.decide agent (some snapshot) row requireMemory = .fromMemory ↔
      snapshot.kind = .memoryAndDisk ∧ snapshot.templateHash = agent.templateHash row.spec ∧
        snapshot.runtimeBundleRef = agent.runtimeVersion ∧
        (snapshot.tier = .objectStore → snapshot.cpuClass = agent.cpuClass) := by
  have never (reason : ErrorReason) (why : String) :
      Restore.fallback requireMemory reason why ≠ .fromMemory := by
    unfold Restore.fallback
    split <;> exact nofun
  unfold Restore.decide
  constructor
  · intro decided
    dsimp only at decided
    split at decided
    · exact absurd decided (never _ _)
    · next memory =>
        split at decided
        · exact absurd decided (never _ _)
        · next template =>
            split at decided
            · exact absurd decided (never _ _)
            · next bundle =>
                split at decided
                · exact absurd decided (never _ _)
                · next machine =>
                    rw [not_and, not_not] at machine
                    exact ⟨not_not.mp memory, not_not.mp template, not_not.mp bundle, machine⟩
  · rintro ⟨memory, template, bundle, machine⟩
    simp only [memory, template, bundle, ne_eq, not_true_eq_false, if_false]
    exact if_neg fun elsewhere => elsewhere.2 (machine elsewhere.1)

theorem fromMemory_reads {snapshotId : Option String} {requireMemory : Bool}
    {reads : NodeTrace} {row : Option InstanceRow}
    (ran : Ran (resolveRestore agent id snapshotId requireMemory) reads (row, .fromMemory)) :
    ∃ current snapshot named, row = some current ∧
      ⟨.journal (.getInstance id), .ok (some current)⟩ ∈ reads ∧
      ⟨.journal (.getSnapshot named), .ok (some snapshot)⟩ ∈ reads ∧
      Restore.decide agent (some snapshot) current requireMemory = .fromMemory ∧
      (snapshotId = some named ∨
        (snapshotId = none ∧ named ≠ "" ∧ ∃ earlier, earlier.latestSnapshotId = named ∧
          ⟨.journal (.getInstance id), .ok (some earlier)⟩ ∈ reads)) := by
  have answered {β : Type} {read : Except String (Option β)} {value : β}
      (joined : read.toOption.join = some value) : read = .ok (some value) := by
    cases read with
    | error cause => cases joined
    | ok found => exact congrArg _ joined
  obtain ⟨early, snapshot, read, inside, looked, reading, joined, decided⟩ := resolveRestore_ran ran
  cases row with
  | none => cases decided
  | some current =>
    obtain rfl := answered joined.symm
    cases snapshot with
    | none =>
      simp only [Restore.decide, Restore.fallback] at decided
      split at decided <;> cases decided
    | some snapshot =>
      rcases snapshotToRestore_ran looked with
        ⟨named, found, asked, looking, present⟩ |
        ⟨asked, read, first,
          ⟨-, absent⟩ | ⟨earlier, present, ⟨-, absent⟩ | ⟨set, found, looking, kept⟩⟩⟩
      · obtain rfl := answered present.symm
        exact ⟨current, snapshot, named, rfl, reading, inside looking, decided.symm, .inl asked⟩
      · cases absent
      · cases absent
      · obtain rfl := answered present
        obtain rfl := answered kept.symm
        exact ⟨current, snapshot, _, rfl, reading, inside looking, decided.symm,
          .inr ⟨asked, set, earlier, rfl, inside first⟩⟩

end Barista.Node
