import Barista.Node.Recovery
import Barista.Node.Requests

/-!
Contract: an executor holds its operation's claim until it finalizes it.

Owns: what a step leaves of a task that still has something to do, and the claim of every executor
whose trace has no finalize.
-/

namespace Barista.Node

open Foundation Fleet
open Prog (Emits After Ran after_bind_step ran_bind ran_step ran_pure)

variable {agent : Agent} {etags : LeaseVersioning} {system after : System}
  {label : Label} {labels : List Label} {index : Nat} {executor : Executor}

namespace System

/-! ### Tasks with something left to do -/

variable {traces : Nat → NodeTrace}

theorem tracesAfter_other (other : ∀ choice, label ≠ .deliver index choice) :
    tracesAfter etags system label traces index = traces index := by
  cases exchanged : system.exchanged etags label with
  | none => simp only [tracesAfter, exchanged]
  | some noted =>
    obtain ⟨choice, rfl, -⟩ := exchanged_cases exchanged
    have different : index ≠ noted.1 := fun same => other choice (by rw [same])
    simp only [tracesAfter, exchanged, Function.update_of_ne different]

theorem mem_tracesAfter {exchange : Exchange NodeSig} (member : exchange ∈ traces index) :
    exchange ∈ tracesAfter etags system label traces index := by
  cases exchanged : system.exchanged etags label with
  | none => simpa only [tracesAfter, exchanged] using member
  | some noted =>
    obtain ⟨acting, made⟩ := noted
    simp only [tracesAfter, exchanged]
    by_cases same : index = acting
    · subst same
      rw [Function.update_self]
      exact List.mem_append_left _ member
    · rwa [Function.update_of_ne same]

theorem tracesAfter_self {choice : Choice} {role : Role} {act : NodeAct}
    {continuation : NodeSig.Ans act → NodeProg Unit} {answer : NodeSig.Ans act} {world : World}
    (found : system.tasks[index]? = some ⟨role, .step act continuation⟩)
    (executed : (nodeMachine etags).exec index act choice system.world = some (answer, world)) :
    tracesAfter etags system (.deliver index choice) traces index = traces index ++
      [⟨act, answer⟩] := by
  simp [tracesAfter, System.exchanged, found, executed]

/-- A task of the process that has something left to do after a step took it, or waited while the
others kept to their conduct, or has just been started. -/
theorem live_cases (covered : Pool.Covered (conduct agent etags) system)
    (stepped : next agent etags system label = some after) {role : Role} {act : NodeAct}
    {continuation : NodeSig.Ans act → NodeProg Unit}
    (live : after.tasks[index]? = some ⟨role, .step act continuation⟩) (own : role.isPeer = false) :
    (∃ choice last resume answer, label = .deliver index choice ∧
        system.tasks[index]? = some ⟨role, .step last resume⟩ ∧
        (nodeMachine etags).exec index last choice system.world = some (answer, after.world) ∧
        resume answer = .step act continuation) ∨ ((∀ choice, label ≠ .deliver index choice) ∧
        system.tasks[index]? = some ⟨role, .step act continuation⟩ ∧
        Relied index system.world after.world) ∨
      ((∀ choice, label ≠ .deliver index choice) ∧ system.tasks[index]? = none ∧
        role.prog agent = .step act continuation ∧
        ∀ executor, role = .executor executor → ∃ position, label = .launch position ∧
          system.world.spawned[position]? = some executor ∧
          after.world = system.world.launched position index executor) := by
  -- A task that is still there, or the one that was appended.
  have appended {world : World} {started : Role}
      (located : (system.tasks ++ [⟨started, started.prog agent⟩])[index]? =
        some ⟨role, .step act continuation⟩)
      (relied : Relied index system.world world) :
      (system.tasks[index]? = some ⟨role, .step act continuation⟩ ∧
          Relied index system.world world) ∨
        (index = system.tasks.length ∧ system.tasks[index]? = none ∧ role = started ∧
          role.prog agent = .step act continuation) := by
    rcases located_append located with located | ⟨rfl, same⟩
    · exact .inl ⟨located, relied⟩
    · obtain ⟨rfl, begun⟩ := Task.mk.inj same
      exact .inr ⟨rfl, List.getElem?_eq_none le_rfl, rfl, begun.symm⟩
  have survives : Relied index system.world system.world :=
    (conduct agent etags).rely_refl index role system.world own
  cases next_cases stepped with
  | @deliver acting choice actor last resume answer world found executed =>
    rcases located_set found live with ⟨rfl, written⟩ | ⟨same, live⟩
    · obtain ⟨rfl, returned⟩ := Task.mk.inj written
      exact .inl ⟨choice, last, resume, answer, rfl, found, executed, returned.symm⟩
    · obtain ⟨kept, guaranteed, -⟩ := covered.guar found executed trivial
      refine .inr (.inl ⟨fun _ isIt => same (Label.deliver.inj isIt).1.symm, live, ?_⟩)
      exact (conduct agent etags).guar_rely (Ne.symm same) covered.inv kept guaranteed own
  | @launch position launched queued =>
    obtain ⟨-, relied, -⟩ := conduct_contract.launch system.tasks.length covered.inv queued
    rcases appended live (relied index role own) with ⟨found, relied⟩ | ⟨rfl, fresh, rfl, begun⟩
    · exact .inr (.inl ⟨by simp, found, relied⟩)
    · refine .inr (.inr ⟨by simp, fresh, begun, ?_⟩)
      rintro _ ⟨⟩
      exact ⟨position, rfl, queued, rfl⟩
  | tick | invoke | peer =>
    rcases appended live survives with ⟨found, relied⟩ | ⟨rfl, fresh, rfl, begun⟩
    · exact .inr (.inl ⟨by simp, found, relied⟩)
    · exact .inr (.inr ⟨by simp, fresh, begun, by rintro _ ⟨⟩⟩)
  | desire =>
    exact .inr (.inl ⟨by simp, live, (conduct_contract.desire _ covered.inv).2 index role own⟩)
  | crash => cases (killed_peer live).symm.trans own
  | open_ down =>
    exact .inr (.inl ⟨by simp, live, (conduct_contract.halfOpen _ _ covered.inv down).2 index role own⟩)
  | boot down =>
    rcases located_append live with old | ⟨last, started⟩
    · cases (killed_peer old).symm.trans own
    · obtain ⟨rfl, begun⟩ := Task.mk.inj started
      refine .inr (.inr ⟨by simp, List.getElem?_eq_none ?_, begun.symm, by rintro _ ⟨⟩⟩)
      simpa using last.ge

end System

/-! ### The claim of an executor -/

/-- What an executor does without giving up its claim: it submits nothing, hands nothing over and
moves no instance but by its finalize. -/
def NodeAct.isRetaining : NodeAct → Bool
  | .journal (.submitAtomically _) | .journal (.setInstanceState ..) | .spawn _ | .beginTick
  | .endTick | .join => false
  | _ => true

theorem execute_retaining (executor : Executor) :
    (execute agent executor).Emits fun act : NodeAct => act.isRetaining = true := by
  refine emits_execute executor (fun act isLoose => ?_) (fun act isCustodial => ?_) rfl
    (fun _ _ => rfl) fun _ => rfl
  · cases act with
    | journal query => cases query <;> first | rfl | cases isLoose
    | spawn | beginTick | endTick | join => cases isLoose
    | _ => rfl
  · cases act with
    | journal query => cases query <;> first | rfl | cases isCustodial
    | spawn | beginTick | endTick | join => cases isCustodial
    | _ => rfl

variable {act : NodeAct}

theorem Executing.own {choice : Choice} {answer : NodeSig.Ans act} {before after : World}
    (executing : Executing index executor before) (claims : Claims before)
    (retaining : act.isRetaining = true)
    (unfinished : ∀ args, act ≠ .journal (.finishOperation args))
    (executed : (nodeMachine etags).exec index act choice before = some (answer, after)) :
    Executing index executor after := by
  by_cases isQuery : ∃ query, act = .journal query
  · obtain ⟨query, rfl⟩ := isQuery
    refine executing.quiet (query_quiet claims ?_ ?_ (.inl ?_) executed)
    · rintro args rfl
      cases retaining
    · rintro args rfl
      exact unfinished args rfl
    · cases query with
      | finishOperation args => exact absurd rfl (unfinished args)
      | submitAtomically | setInstanceState => cases retaining
      | _ => rfl
  · have notSpawn : ∀ executor, act ≠ .spawn executor := by
      rintro _ rfl
      cases retaining
    obtain ⟨journal, -, charge, recorded⟩ :=
      exec_frame executed (fun query same => isQuery ⟨query, same⟩) notSpawn
    exact ⟨executing.planned, journal ▸ executing.claimed, by rw [charge, executing.charge],
      by rw [recorded, executing.noted]⟩

def Unfinished (trace : NodeTrace) : Prop :=
  ∀ args answer, ⟨.journal (.finishOperation args), answer⟩ ∉ trace

/-- What is known of the tasks of a reachable state and of what they have said and heard: they keep
to their conduct, none runs on while the process is down, each is a residual of its program, and an executor that has finalized nothing
holds its claim. -/
structure Accounted (agent : Agent) (etags : LeaseVersioning) (system : System)
    (traces : Nat → NodeTrace) : Prop where
  covered : Pool.Covered (conduct agent etags) system
  halted : Halted system
  residual : System.Residual agent system traces
  executing : ∀ {index : Nat} {executor : Executor} {act : NodeAct}
    {continuation : NodeSig.Ans act → NodeProg Unit},
    system.tasks[index]? = some ⟨.executor executor, .step act continuation⟩ →
    Unfinished (traces index) → Executing index executor system.world

namespace Accounted

variable {traces : Nat → NodeTrace}

theorem initial : Accounted agent etags System.initial fun _ => [] where
  covered := conduct_contract.covered_initial
  halted := by rintro - task ⟨⟩
  residual := ⟨by simp [System.initial], fun _ _ => rfl⟩
  executing found := by cases found

variable (accounted : Accounted agent etags system traces)

include accounted

theorem claims : Claims system.world :=
  accounted.covered.inv.1

theorem owned : Ownership system.world.journal :=
  accounted.claims.owned

theorem come {role : Role} {act : NodeAct}
    {continuation : NodeSig.Ans act → NodeProg Unit}
    (found : system.tasks[index]? = some ⟨role, .step act continuation⟩) :
    After (role.prog agent) (traces index) (.step act continuation) := by
  rcases accounted.residual.residual index _ found with returned | residual
  · cases returned
  · exact residual

/-- An executor that has not finalized has said and heard nothing, or it was there before the step
and has heard since at most the answer to what it then asked. -/
theorem unfinished_cases (stepped : System.next agent etags system label = some after)
    {continuation : NodeSig.Ans act → NodeProg Unit}
    (live : after.tasks[index]? = some ⟨.executor executor, .step act continuation⟩)
    (unfinished : Unfinished (System.tracesAfter etags system label traces index)) :
    System.tracesAfter etags system label traces index = [] ∨ ∃ last resume,
      system.tasks[index]? = some ⟨.executor executor, .step last resume⟩ ∧
      Unfinished (traces index) ∧
      ∀ exchange ∈ System.tracesAfter etags system label traces index, exchange ∈ traces index ∨
        ∃ choice answer, label = .deliver index choice ∧ exchange = ⟨last, answer⟩ ∧
          (nodeMachine etags).exec index last choice system.world = some (answer, after.world) := by
  rcases System.live_cases accounted.covered stepped live rfl with
    ⟨choice, last, resume, answer, rfl, found, executed, -⟩ | ⟨other, found, -⟩ | ⟨other, absent, -⟩
  · rw [System.tracesAfter_self found executed] at unfinished ⊢
    refine .inr ⟨last, resume, found, fun args answer member =>
      unfinished args answer (List.mem_append_left _ member), fun exchange member => ?_⟩
    refine (List.mem_append.mp member).imp_right fun now => ?_
    exact ⟨choice, answer, rfl, List.mem_singleton.mp now, executed⟩
  · rw [System.tracesAfter_other other] at unfinished ⊢
    exact .inr ⟨act, continuation, found, unfinished, fun _ => .inl⟩
  · rw [System.tracesAfter_other other]
    exact .inl (accounted.residual.fresh index (List.getElem?_eq_none_iff.mp absent))

theorem step (stepped : System.next agent etags system label = some after) :
    Accounted agent etags after (System.tracesAfter etags system label traces) := by
  refine ⟨conduct_contract.step accounted.covered stepped ?_,
    accounted.halted.step accounted.covered stepped, accounted.residual.step stepped, ?_⟩
  · cases label with
    | deliver => exact fun _ _ _ _ _ _ _ => trivial
    | _ => trivial
  intro index executor act continuation live unfinished
  rcases System.live_cases accounted.covered stepped live rfl with
    ⟨choice, last, resume, answer, rfl, found, executed, -⟩ | ⟨other, found, relied⟩ |
    ⟨other, -, -, started⟩
  · rw [System.tracesAfter_self found executed] at unfinished
    refine (accounted.executing found ?_).own accounted.claims
      ((execute_retaining executor).after (accounted.come found)).2.1 ?_ executed
    · exact fun args answer member => unfinished args answer (List.mem_append_left _ member)
    · rintro args rfl
      exact unfinished args answer (by simp)
  · rw [System.tracesAfter_other other] at unfinished
    exact (accounted.executing found unfinished).relied relied
  · obtain ⟨position, rfl, queued, launched⟩ := started executor rfl
    rw [launched]
    exact (launched_kept index accounted.claims queued).2.1

end Accounted

theorem reach_accounted (reached : System.reach agent etags labels = some system) :
    Accounted agent etags system (System.traces agent etags labels) := by
  refine run_observed (I := Accounted agent etags) ?_ Accounted.initial reached
  intro labels current label later _ accounted stepped
  exact accounted.step stepped

/-- **Where the claim of an operation in charge came from.** It was there before the step, and
whoever executes it still does; or the step journaled it. -/
theorem claim_cases (covered : Pool.Covered (conduct agent etags) system)
    (stepped : System.next agent etags system label = some after) {op : OperationRow}
    (member : op ∈ after.world.journal.operations.rows) (active : op.executorActive = true)
    (charged : after.world.aux.charge op.opId ≠ none) :
    (∃ old ∈ system.world.journal.operations.rows, OpStep old op ∧ old.executorActive = true ∧
        system.world.aux.charge op.opId ≠ none ∧
        (after.world.aux.charge op.opId = system.world.aux.charge op.opId ∨
          ∀ index, system.world.aux.charge op.opId ≠ some (.executor index))) ∨
      ∃ args recorded, system.journaled etags label = some (args, recorded) ∧
        op = Journal.newOperation args := by
  have stays (kept : op ∈ system.world.journal.operations.rows)
      (same : after.world.aux.charge op.opId = system.world.aux.charge op.opId) :
      ∃ old ∈ system.world.journal.operations.rows, OpStep old op ∧ old.executorActive = true ∧
        system.world.aux.charge op.opId ≠ none ∧
        (after.world.aux.charge op.opId = system.world.aux.charge op.opId ∨
          ∀ index, system.world.aux.charge op.opId ≠ some (.executor index)) :=
    ⟨op, kept, .refl op, active, same ▸ charged, .inl same⟩
  cases System.next_cases stepped with
  | @deliver index choice role act continuation answer world found executed =>
    by_cases isQuery : ∃ query, act = .journal query
    · obtain ⟨query, rfl⟩ := isQuery
      rcases query_cases executed with ⟨_, -, rfl⟩ | ⟨result, journal, rfl, ran, rfl⟩
      · exact .inl (stays member rfl)
      cases query with
      | submitAtomically args =>
        cases result with
        | journaled recorded =>
          obtain ⟨-, -, appended, fresh, -⟩ := Journal.submitAtomically_journaled ran
          rcases List.mem_append.mp (appended ▸ member) with old | new
          · exact .inl (stays old (Function.update_of_ne (fresh op old) ..))
          · refine .inr ⟨args, recorded, ?_, List.mem_singleton.mp new⟩
            simp only [System.journaled, System.exchanged, found, executed, Option.map_some]
        | replay | conflict | rejected | claimSuperseded =>
          have same : journal = system.world.journal :=
            Journal.submitAtomically_refused ran (by simp)
          exact .inl (stays (same ▸ member) rfl)
      | _ =>
        obtain ⟨change, added, written, kept, fresh⟩ := Query.run_operations ran
        rcases List.mem_append.mp (written ▸ member) with old | new
        · obtain ⟨source, sourceMember, rfl⟩ := List.mem_map.mp old
          have step := (kept source sourceMember).1
          exact .inl ⟨source, sourceMember, step, step.noneTaken active, charged, .inl rfl⟩
        · obtain ⟨args, isSubmission, -⟩ := fresh op new
          cases isSubmission
    · have journal := exec_journal executed fun query same => isQuery ⟨query, same⟩
      have kept : op ∈ system.world.journal.operations.rows := journal ▸ member
      by_cases isSpawn : ∃ executor, act = .spawn executor
      · obtain ⟨executor, rfl⟩ := isSpawn
        obtain ⟨-, ⟨-, submitting⟩, -⟩ := covered.guar found executed trivial
        cases executed
        by_cases own : op.opId = executor.op.opId
        · refine .inl ⟨op, kept, .refl op, active, ?_, .inr fun index => ?_⟩ <;>
            simp [own, Submitting.charge submitting]
        · exact .inl (stays kept (Function.update_of_ne own ..))
      · have frame := exec_frame executed (fun query same => isQuery ⟨query, same⟩)
          fun executor same => isSpawn ⟨executor, same⟩
        exact .inl (stays kept (congrFun frame.2.2.1 op.opId))
  | @launch position executor queued =>
    have charge := (covered.inv.1.queued executor (List.mem_of_getElem? queued)).2.2.1
    by_cases own : op.opId = executor.op.opId
    · exact .inl ⟨op, member, .refl op, active,
        by simp [own, charge], .inr fun index => by simp [own, charge]⟩
    · exact .inl (stays member (Function.update_of_ne own ..))
  | tick | invoke | peer | desire => exact .inl (stays member rfl)
  | crash | boot => exact absurd rfl charged
  | open_ down => exact absurd ((covered.inv.2.down down).2.2 op.opId) charged

/-! ### The parts of an executor -/

/-- The executor is at work on its payload: the epoch was rotated and the lease stamped before. -/
structure Working (agent : Agent) (executor : Executor) (trace : NodeTrace)
    (act : NodeAct) where
  rotating : NodeTrace
  stamping : NodeTrace
  within : NodeTrace
  epoch : Option Nat
  inner : NodeSig.Ans act → NodeProg Work
  split : trace = rotating ++ (stamping ++ within)
  rotated : Ran (rotateEpoch executor.kind executor.op.instanceId) rotating (.ok epoch)
  stamped : Ran (stampLeaseState executor.op.instanceId) stamping ()
  works : After (runPayload agent executor.op executor.recorded (epoch.getD 0) executor.payload)
    within (.step act inner)

theorem execute_cases {trace : NodeTrace} {next : NodeSig.Ans act → NodeProg Unit}
    (reached : After (execute agent executor) trace (.step act next)) :
    Nonempty (Working agent executor trace act) ∨
      (∃ inner, After (rotateEpoch executor.kind executor.op.instanceId) trace (.step act inner)) ∨
      (∃ within inner, After (stampLeaseState executor.op.instanceId) within (.step act inner)) ∨
      (∃ message rotating within inner, rotating ⊆ trace ∧
        Ran (rotateEpoch executor.kind executor.op.instanceId) rotating (.error message) ∧
        After (failClosed executor.op message) within (.step act inner)) ∨
      ∃ early epoch working work within inner, trace = early ++ (working ++ within) ∧
        Ran (runPayload agent executor.op executor.recorded (epoch.getD 0) executor.payload)
          working work ∧
        After (finalize agent executor.kind executor.op executor.recorded epoch work) within
          (.step act inner) := by
  rcases after_bind_step reached with
    ⟨inner, rotates⟩ | ⟨rotating, rotation, afterRotation, rfl, rotated, reached⟩
  · exact .inr (.inl ⟨inner, rotates⟩)
  rcases after_bind_step reached with
    ⟨inner, stamps⟩ | ⟨stamping, ⟨⟩, afterStamp, rfl, stamped, reached⟩
  · exact .inr (.inr (.inl ⟨_, inner, stamps⟩))
  cases rotation with
  | error message =>
    exact .inr (.inr (.inr (.inl ⟨message, rotating, _, _, by simp, rotated, reached⟩)))
  | ok epoch =>
    rcases after_bind_step reached with
      ⟨inner, works⟩ | ⟨working, work, within, rfl, worked, finalizes⟩
    · exact .inl ⟨rotating, stamping, afterStamp, epoch, inner, rfl, rotated, stamped, works⟩
    · refine .inr (.inr (.inr (.inr
        ⟨rotating ++ stamping, epoch, working, work, within, _, ?_, worked, finalizes⟩)))
      simp only [List.append_assoc]

theorem Working.unfinished {trace : NodeTrace}
    (working : Working agent executor trace act) : Unfinished trace := by
  intro args answer member
  rw [working.split, List.mem_append, List.mem_append] at member
  rcases member with rotating | stamping | within
  · have rotates := ((rotateEpoch_rotates ..).after working.rotated).1 _ rotating
    rcases rotates with rotates | ⟨_, rotates⟩ <;> cases rotates
  · cases ((Keeping.stamp _).after working.stamped).1 _ stamping
  · cases ((Loose.runPayload ..).after working.works).1 _ within

/-- **An executor at work holds its claim.** -/
theorem Accounted.working {traces : Nat → NodeTrace}
    (accounted : Accounted agent etags system traces)
    {continuation : NodeSig.Ans act → NodeProg Unit}
    (found : system.tasks[index]? = some ⟨.executor executor, .step act continuation⟩)
    (working : Working agent executor (traces index) act) : Executing index executor system.world :=
  accounted.executing found working.unfinished

end Barista.Node
