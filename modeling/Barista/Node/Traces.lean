import Barista.Node.Steps

/-!
Contract: every task of a reachable state is some trace of its program away from its beginning.

Owns: the traces behind the tasks of a run, and what follows for the next action of a task from
what its program can do.
-/

namespace Barista.Node

open Foundation Fleet
open Prog (After)

namespace System

def exchanged (etags : LeaseVersioning) (system : System) :
    Label → Option (Nat × Exchange NodeSig)
  | .deliver index choice =>
    match system.tasks[index]? with
    | some ⟨_, .step act _⟩ =>
      ((nodeMachine etags).exec index act choice system.world).map fun result =>
        (index, ⟨act, result.1⟩)
    | _ => none
  | _ => none

def tracesAfter (etags : LeaseVersioning) (system : System) (label : Label)
    (traces : Nat → NodeTrace) : Nat → NodeTrace :=
  match system.exchanged etags label with
  | some (index, exchange) => Function.update traces index (traces index ++ [exchange])
  | none => traces

def traces (agent : Agent) (etags : LeaseVersioning) (labels : List Label) :
    Nat → NodeTrace :=
  observe (next agent etags) (tracesAfter etags) initial labels fun _ => []

variable {agent : Agent} {etags : LeaseVersioning} {system after : System}
  {label : Label}

theorem exchanged_cases {index : Nat} {exchange : Exchange NodeSig}
    (exchanged : system.exchanged etags label = some (index, exchange)) :
    ∃ choice, label = .deliver index choice ∧ ∃ role continuation world,
      system.tasks[index]? = some ⟨role, .step exchange.act continuation⟩ ∧
      (nodeMachine etags).exec index exchange.act choice system.world = some
        (exchange.answer, world) := by
  cases label with
  | deliver acting choice =>
    simp only [System.exchanged] at exchanged
    split at exchanged
    · next role act continuation found =>
        obtain ⟨⟨answer, world⟩, executed, noted⟩ := Option.map_eq_some_iff.mp exchanged
        cases noted
        exact ⟨choice, rfl, role, continuation, world, found, executed⟩
    · cases exchanged
  | _ => cases exchanged

theorem mem_tracesAfter_cases {traces : Nat → NodeTrace} {index : Nat}
    {exchange : Exchange NodeSig}
    (member : exchange ∈ tracesAfter etags system label traces index) :
    exchange ∈ traces index ∨ system.exchanged etags label = some (index, exchange) := by
  cases exchanged : system.exchanged etags label with
  | none => exact .inl (by simpa only [tracesAfter, exchanged] using member)
  | some noted =>
    simp only [tracesAfter, exchanged] at member
    refine (mem_grown member).imp_right ?_
    rintro ⟨rfl, rfl⟩
    rfl

theorem tracesAfter_outside {traces : Nat → NodeTrace}
    (outside : ∀ index choice, label ≠ .deliver index choice) :
    tracesAfter etags system label traces = traces := by
  cases label with
  | deliver index choice => exact absurd rfl (outside index choice)
  | _ => rfl

theorem tasks_outside (outside : ∀ index choice, label ≠ .deliver index choice)
    (stepped : next agent etags system label = some after) :
    ∃ survive : NodeTask → NodeTask,
      (∀ task, survive task = task ∨ (survive task).prog = .pure ()) ∧
      (after.tasks = system.tasks.map survive ∨
        ∃ role, after.tasks = system.tasks.map survive ++ [⟨role, role.prog agent⟩]) := by
  have all : system.tasks.map id = system.tasks := List.map_id _
  have killed (task : NodeTask) : kill task = task ∨ (kill task).prog = .pure () := by
    unfold kill
    split
    · exact .inl rfl
    · exact .inr rfl
  cases next_cases stepped with
  | deliver => exact absurd rfl (outside _ _)
  | launch | tick | invoke | peer => exact ⟨id, fun _ => .inl rfl, .inr ⟨_, by rw [all]; rfl⟩⟩
  | desire | open_ => exact ⟨id, fun _ => .inl rfl, .inl all.symm⟩
  | crash => exact ⟨kill, killed, .inl rfl⟩
  | boot => exact ⟨kill, killed, .inr ⟨.boot _, rfl⟩⟩

theorem roles_step (stepped : next agent etags system label = some after) :
    ∀ task ∈ after.tasks, (∃ old ∈ system.tasks, old.role = task.role) ∨
      ∀ invocation, task.role = .caller invocation → label = .invoke invocation := by
  have killed : ∀ task ∈ system.tasks.map kill, ∃ old ∈ system.tasks, old.role = task.role := by
    intro task member
    obtain ⟨old, found, rfl⟩ := List.mem_map.mp member
    refine ⟨old, found, ?_⟩
    unfold kill
    split <;> rfl
  have started {tasks : List NodeTask} {role : Role} {task : NodeTask}
      (member : task ∈ tasks ++ [⟨role, role.prog agent⟩])
      (called : ∀ invocation, role = .caller invocation → label = .invoke invocation) :
      task ∈ tasks ∨ ∀ invocation, task.role = .caller invocation → label = .invoke invocation := by
    rcases List.mem_append.mp member with kept | new
    · exact .inl kept
    · rw [List.mem_singleton.mp new]
      exact .inr called
  intro task member
  cases next_cases stepped with
  | deliver found =>
    left
    rcases List.mem_or_eq_of_mem_set member with kept | rfl
    · exact ⟨task, kept, rfl⟩
    · exact ⟨_, List.mem_of_getElem? found, rfl⟩
  | launch | tick | peer =>
    exact (started member (by rintro _ ⟨⟩)).imp_left fun kept => ⟨task, kept, rfl⟩
  | invoke =>
    refine (started member ?_).imp_left fun kept => ⟨task, kept, rfl⟩
    rintro _ ⟨⟩
    rfl
  | desire | open_ => exact .inl ⟨task, member, rfl⟩
  | crash => exact .inl (killed task member)
  | boot => exact (started member (by rintro _ ⟨⟩)).imp_left (killed task)

structure Residual (agent : Agent) (system : System) (traces : Nat → NodeTrace) :
    Prop where
  residual : ∀ index task, system.tasks[index]? = some task →
    task.prog = .pure () ∨ After (task.role.prog agent) (traces index) task.prog
  fresh : ∀ index, system.tasks.length ≤ index → traces index = []

namespace Residual

variable {traces : Nat → NodeTrace} {index : Nat} {choice : Choice}

theorem resides_iff : Residual agent system traces ↔
    Pool.Resides (Role.prog agent) system traces := by
  constructor
  · intro resides
    refine ⟨fun found => ?_, resides.fresh _⟩
    rcases resides.residual _ _ found with returned | residual
    · cases returned
    · exact residual
  · intro resides
    refine ⟨fun index task found => ?_, fun _ => resides.fresh⟩
    obtain ⟨role, prog⟩ := task
    cases prog with
    | pure => exact .inl rfl
    | step act continuation => exact .inr (resides.residual found)

theorem step (resides : Residual agent system traces)
    (stepped : next agent etags system label = some after) :
    Residual agent after (tracesAfter etags system label traces) := by
  rw [resides_iff] at resides ⊢
  by_cases isDeliver : ∃ index choice, label = .deliver index choice
  · obtain ⟨index, choice, rfl⟩ := isDeliver
    obtain ⟨role, act, continuation, answer, world, found, executed, rfl⟩ := Pool.step_cases stepped
    simp only [tracesAfter, exchanged, found, executed, Option.map_some]
    exact resides.step found
  · have outside : ∀ index choice, label ≠ .deliver index choice := fun index choice isIt =>
      isDeliver ⟨index, choice, isIt⟩
    obtain ⟨survive, survives, tasks⟩ := tasks_outside outside stepped
    have survivors : Pool.Resides (Role.prog agent)
      ⟨after.world, system.tasks.map survive⟩ traces :=
      resides.survive _ fun task => (survives task).imp_right fun ended => ⟨(), ended⟩
    rw [tracesAfter_outside outside]
    obtain ⟨world, started⟩ := after
    rcases tasks with rfl | ⟨role, rfl⟩
    · exact survivors
    · exact survivors.spawn role world

end Residual

variable {labels : List Label}

/-- **Every task is a residual of what it has said and heard.** -/
theorem reach_residual (reached : reach agent etags labels = some system) :
    Residual agent system (traces agent etags labels) := by
  refine run_observed (I := fun current traces => Residual agent current traces) ?_ ?_ reached
  · intro labels current label later _ resides stepped
    exact resides.step stepped
  · exact ⟨by simp [initial], fun _ _ => rfl⟩

theorem traces_satisfy {A : Exchange NodeSig → Prop}
    (executes : ∀ {index act choice before answer after},
      (nodeMachine etags).exec index act choice before = some (answer, after) → A ⟨act, answer⟩)
    (reached : reach agent etags labels = some system) (index : Nat) :
    ∀ exchange ∈ traces agent etags labels index, A exchange := by
  refine run_observed (I := fun (_ : System) (traces : Nat → NodeTrace) =>
    ∀ index, ∀ exchange ∈ traces index, A exchange) ?_ (by simp) reached index
  intro labels current label later _ all stepped other exchange member
  rcases mem_tracesAfter_cases member with before | exchanged
  · exact all other exchange before
  · obtain ⟨choice, -, role, continuation, world, -, executed⟩ := exchanged_cases exchanged
    exact executes executed

theorem next_residual (reached : reach agent etags labels = some system) {index : Nat}
    {role : Role} {act : NodeAct} {continuation : NodeSig.Ans act → NodeProg Unit}
    (found : system.tasks[index]? = some ⟨role, .step act continuation⟩) :
    After (role.prog agent) (traces agent etags labels index) (.step act continuation) := by
  rcases (reach_residual reached).residual index _ found with returned | residual
  · cases returned
  · exact residual

end System

end Barista.Node
