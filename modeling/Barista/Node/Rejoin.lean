import Barista.Node.Coverage
import Barista.Node.Steps

/-!
Contract: when a restarted node is back in its fleet.

A boot sets the fleet through the only reference to the agent. The stops that fleet
recovery submits run in tasks of their own, each with a clone of it, and a boot that finds
one of them alive stays outside the fleet until the next restart.

Owns: the executors alive in a state, and exactly which boots rejoin.
-/

namespace Barista.Node

open Foundation Fleet

def liveExecutor (task : NodeTask) : Option Executor :=
  match task.role, task.prog with
  | .executor executor, .step _ _ => some executor
  | _, _ => none

/-- The executors that hold a clone of the agent: handed to the scheduler, or started and not
returned. -/
def System.executorsAlive (system : System) : List Executor :=
  system.world.spawned ++ system.tasks.filterMap liveExecutor

/-- The ids submitted since the process started, given one more step. -/
def submittedAfter (system : System) : Label → List String → List String
  | .crash, _ | .boot _, _ => []
  | label, submitted =>
    match system.made label with
    | some (.submitAtomically args) => args.opId :: submitted
    | _ => submitted

/-- The ids of the operations the process has submitted since it was last started. -/
def submittedSinceStart (agent : Agent) (etags : LeaseVersioning)
    (labels : List Label) : List String :=
  observe (System.next agent etags) submittedAfter System.initial labels []

/-- Whoever is in charge of an operation, or executes one, was submitted by this process. -/
structure OwnSubmissions (system : System) (submitted : List String) : Prop where
  charged : ∀ opId, system.world.aux.charge opId ≠ none → opId ∈ submitted
  alive : ∀ executor ∈ system.executorsAlive, executor.op.opId ∈ submitted

section Steps

variable {agent : Agent} {etags : LeaseVersioning} {labels : List Label}
  {system after : System} {label : Label} {submitted : List String}

theorem liveExecutor_kill (task : NodeTask) : liveExecutor (System.kill task) = none := by
  obtain ⟨role, prog⟩ := task
  cases role <;> rfl

theorem executorsAlive_reset {world : World} {tasks : List NodeTask} (reset : world.spawned = []) :
    System.executorsAlive ⟨world, tasks.map System.kill⟩ = [] := by
  simp [System.executorsAlive, reset, List.filterMap_map, liveExecutor_kill]

theorem executorsAlive_begin {role : Role} (other : ∀ executor, role ≠ .executor executor) :
    System.executorsAlive (System.begin_ agent system role) = system.executorsAlive := by
  have idle : liveExecutor ⟨role, role.prog agent⟩ = none := by
    cases role with
    | executor accepted => exact absurd rfl (other accepted)
    | _ => rfl
  simp [System.executorsAlive, System.begin_, Pool.spawn, idle]

theorem executorsAlive_deliver {index : Nat} {choice : Choice}
    (stepped : System.next agent etags system (.deliver index choice) = some after)
    {executor : Executor} (alive : executor ∈ after.executorsAlive) :
    executor ∈ system.executorsAlive ∨
      ∃ role continuation, system.tasks[index]? =
        some ⟨role, .step (S := NodeSig) (.spawn executor) continuation⟩ := by
  obtain ⟨role, act, continuation, answer, world, found, executed, rfl⟩ := Pool.step_cases stepped
  rcases List.mem_append.mp alive with queued | running
  · rcases exec_spawned executed queued with old | rfl
    · exact .inl (List.mem_append_left _ old)
    · exact .inr ⟨role, continuation, found⟩
  · left
    refine List.mem_append_right _ ?_
    obtain ⟨task, member, isLive⟩ := List.mem_filterMap.mp running
    rcases List.mem_or_eq_of_mem_set member with old | rfl
    · exact List.mem_filterMap.mpr ⟨task, old, isLive⟩
    · -- The task that acted was alive when it did.
      refine List.mem_filterMap.mpr ⟨_, List.mem_of_getElem? found, ?_⟩
      cases role with
      | executor accepted =>
        cases rest : continuation answer with
        | pure value => simp [liveExecutor, rest] at isLive
        | step act next => simpa [liveExecutor, rest] using isLive
      | _ => simp [liveExecutor] at isLive

theorem submittedAfter_deliver (system : System) (index : Nat) (choice : Choice)
    (submitted : List String) :
    submitted ⊆ submittedAfter system (.deliver index choice) submitted := by
  intro opId member
  unfold submittedAfter
  dsimp only
  split
  · exact List.mem_cons_of_mem _ member
  · exact member

theorem OwnSubmissions.deliver {index : Nat} {choice : Choice}
    (own : OwnSubmissions system submitted)
    (reached : System.reach agent etags labels = some system)
    (stepped : System.next agent etags system (.deliver index choice) = some after) :
    OwnSubmissions after (submittedAfter system (.deliver index choice) submitted) := by
  have kept := submittedAfter_deliver system index choice submitted
  obtain ⟨role, act, continuation, answer, world, found, executed, written⟩ :=
    Pool.step_cases stepped
  obtain ⟨-, ⟨-, fact⟩, -⟩ := (reach_conduct reached).guar found executed trivial
  -- What is handed over is its submitter's, who answers for it already.
  have handed : ∀ executor, act = .spawn executor → executor.op.opId ∈ submitted := by
    rintro executor rfl
    refine own.charged _ ?_
    rw [show system.world.aux.charge executor.op.opId = some (.submitter index) from fact.charge]
    exact nofun
  constructor
  · intro opId charged
    rw [written] at charged
    rcases exec_charge executed charged with before | ⟨args, rfl, reachable, rfl⟩ |
      ⟨executor, spawns, rfl⟩
    · exact kept (own.charged opId before)
    · simp [submittedAfter, System.made, found, reachable]
    · exact kept (handed executor spawns)
  · intro executor alive
    rcases executorsAlive_deliver stepped alive with old | ⟨_, _, located⟩
    · exact kept (own.alive executor old)
    · rw [found] at located
      cases located
      exact kept (handed executor rfl)

theorem OwnSubmissions.launch {position : Nat} (own : OwnSubmissions system submitted)
    (stepped : System.next agent etags system (.launch position) = some after) :
    OwnSubmissions after submitted := by
  obtain ⟨executor, queued, rfl⟩ := Option.map_eq_some_iff.mp stepped
  have launched : executor.op.opId ∈ submitted :=
    own.alive executor (List.mem_append_left _ (List.mem_of_getElem? queued))
  constructor
  · intro opId charged
    by_cases same : opId = executor.op.opId
    · exact same ▸ launched
    · refine own.charged opId fun uncharged => charged ?_
      exact (Function.update_of_ne same _ _).trans uncharged
  · intro other alive
    rcases List.mem_append.mp alive with waiting | running
    · exact own.alive other (List.mem_append_left _ (List.mem_of_mem_eraseIdx waiting))
    · obtain ⟨task, member, isLive⟩ := List.mem_filterMap.mp running
      rcases List.mem_append.mp member with old | new
      · exact own.alive other (List.mem_append_right _ (List.mem_filterMap.mpr ⟨task, old, isLive⟩))
      · cases List.mem_singleton.mp new
        have same : executor = other := by
          unfold liveExecutor at isLive
          split at isLive
          · next located _ =>
              cases located
              exact Option.some.inj isLive
          · cases isLive
        exact same ▸ launched

/-- **Every executor alive was submitted by this process**, in every run. -/
theorem OwnSubmissions.step (own : OwnSubmissions system submitted)
    (reached : System.reach agent etags labels = some system)
    (stepped : System.next agent etags system label = some after) :
    OwnSubmissions after (submittedAfter system label submitted) := by
  cases System.next_cases stepped with
  | deliver => exact own.deliver reached stepped
  | launch => exact own.launch stepped
  | tick | invoke | peer =>
    refine ⟨own.charged, ?_⟩
    rw [executorsAlive_begin (by rintro _ ⟨⟩)]
    exact own.alive
  | desire | open_ => exact ⟨own.charged, own.alive⟩
  | crash =>
    refine ⟨fun _ charged => absurd rfl charged, ?_⟩
    rw [executorsAlive_reset rfl]
    exact fun _ alive => nomatch alive
  | boot =>
    refine ⟨fun _ charged => absurd rfl charged, ?_⟩
    rw [executorsAlive_begin (by rintro _ ⟨⟩), executorsAlive_reset rfl]
    exact fun _ alive => nomatch alive

theorem joined_stays (reached : System.reach agent etags labels = some system)
    (joined : system.world.stage = .joined) (up : label ≠ .crash)
    (stepped : System.next agent etags system label = some after) :
    after.world.stage = .joined := by
  cases System.next_cases stepped with
  | deliver found executed =>
    obtain ⟨-, ⟨kept, -⟩, -⟩ := (reach_conduct reached).guar found executed trivial
    exact (kept.stage (by rw [joined]; decide)).trans joined
  | launch | tick | invoke | peer | desire => exact joined
  | crash => exact absurd rfl up
  | open_ down | boot down => cases joined.symm.trans down

end Steps

/-- **A restarted node rejoins its fleet, if and only if nothing it submitted is still
executing.** In any reachable state in which a boot is about to set the fleet, and where
`Arc::get_mut` hands out the agent exactly while no executor holds a clone of it, the node is in
its fleet from then on until it crashes exactly when every operation submitted since it was
started has run to its end. -/
theorem restart_rejoins_iff (agent : Agent) (etags : LeaseVersioning)
    (labels : List Label) (system after : System) (index : Nat) (choice : Choice) (role : Role)
    (continuation : Unit → NodeProg Unit) (reached : System.reach agent etags labels = some system)
    (located : system.tasks[index]? = some ⟨role, .step (S := NodeSig) .join continuation⟩)
    (counted : choice.arcUnique = system.executorsAlive.isEmpty)
    (stepped : System.next agent etags system (.deliver index choice) = some after) :
    (∀ later last, run (System.next agent etags) after later = some last →
      Label.crash ∉ later → last.world.stage = .joined) ↔
    ∀ opId ∈ submittedSinceStart agent etags labels,
      ∀ executor ∈ system.executorsAlive, executor.op.opId ≠ opId := by
  have own : OwnSubmissions system (submittedSinceStart agent etags labels) := by
    refine run_observed (I := OwnSubmissions) ?_ ?_ reached
    · intro labels current label later reached own stepped
      exact own.step reached stepped
    · exact ⟨fun _ charged => absurd rfl charged, by simp [System.executorsAlive, System.initial,
        World.initial]⟩
  have joins : after.world.stage = .joined ↔ system.executorsAlive = [] := by
    obtain ⟨_, act, _, answer, world, found, executed, rfl⟩ := Pool.step_cases stepped
    rw [located] at found
    cases found
    cases executed
    rw [counted]
    cases alive : system.executorsAlive <;> simp
  constructor
  · intro stays opId _ executor member
    have empty := joins.mp (stays [] after rfl List.not_mem_nil)
    rw [empty] at member
    cases member
  · intro ended later last continued up
    have empty : system.executorsAlive = [] := by
      refine List.eq_nil_iff_forall_not_mem.mpr fun executor alive => ?_
      exact ended _ (own.alive executor alive) executor alive rfl
    have spared : Along (System.next agent etags) (fun _ label _ => label ≠ .crash) after later :=
      Along.of_labels fun label member _ _ isCrash => up (isCrash ▸ member)
    refine (spared.invariant (I := fun current =>
      (∃ labels, System.reach agent etags labels = some current) ∧
        current.world.stage = .joined) ?_
      ⟨⟨_, System.reach_snoc reached stepped⟩, joins.mpr empty⟩ continued).2
    rintro current label following ⟨⟨labels, reached⟩, joined⟩ stepped up
    exact ⟨⟨_, System.reach_snoc reached stepped⟩, joined_stays reached joined up stepped⟩

def joining (system : System) (index : Nat) : Bool :=
  match system.tasks[index]? with
  | some ⟨_, .step .join _⟩ => true
  | _ => false

theorem joining_located {system : System} {index : Nat} (ready : joining system index = true) :
    ∃ role continuation, system.tasks[index]? = some
      ⟨role, .step (S := NodeSig) .join continuation⟩ := by
  unfold joining at ready
  split at ready
  · next found => exact ⟨_, _, found⟩
  · cases ready

/-- The node crashes and starts again, while its lease is still its own. -/
def restartedOwner : List Label :=
  System.startedSession ++ .crash :: .boot 0 :: System.drive 5 0 107 3

theorem restart_rejoins_owner :
    ∃ system after, System.reach .plain freshVersions restartedOwner = some system ∧
      joining system 5 = true ∧
      System.next .plain freshVersions system (.deliver 5 (.calm 0 110)) = some after ∧
      ∀ later last, run (System.next .plain freshVersions) after later = some last →
        Label.crash ∉ later → last.world.stage = .joined := by
  have ready : ((System.reach .plain freshVersions restartedOwner).any fun system =>
      joining system 5 ∧ system.executorsAlive.isEmpty = true ∧
        (System.next .plain freshVersions system (.deliver 5 (.calm 0 110))).isSome) = true := by
    decide +kernel
  obtain ⟨system, reached, joins, alone, steps⟩ := exists_of_any ready
  obtain ⟨after, stepped⟩ := Option.isSome_iff_exists.mp steps
  obtain ⟨role, continuation, located⟩ := joining_located joins
  refine ⟨system, after, reached, joins, stepped, (restart_rejoins_iff .plain freshVersions
    restartedOwner system after 5 (.calm 0 110) role continuation reached located alone.symm
    stepped).mpr ?_⟩
  rw [List.isEmpty_iff.mp alone]
  exact fun _ _ _ alive => nomatch alive

/-- The node crashes while an instance runs; another node takes its session over; the node
starts again, and recovery submits a stop of it. -/
def restartedFenced : List Label :=
  System.startedSession ++ .crash :: .peer ⟨"s", .acquire "n2" "n2:7070" .default 20000⟩ ::
    System.drive 5 20000 107 2 ++ .boot 20000 :: System.drive 6 20000 109 11

/-- The stop has not run when the fleet is to be set: the node is left outside its fleet. -/
theorem restart_left_outside :
    ∃ system after, System.reach .plain freshVersions restartedFenced = some system ∧
      joining system 6 = true ∧ system.executorsAlive.isEmpty = false ∧
      System.next .plain freshVersions system
        (.deliver 6 { Choice.calm 20000 120 with arcUnique := system.executorsAlive.isEmpty }) =
          some after ∧
      after.world.stage = .alone := by
  have left : ((System.reach .plain freshVersions restartedFenced).any fun system =>
      joining system 6 ∧ system.executorsAlive.isEmpty = false ∧
        (System.next .plain freshVersions system (.deliver 6
          { Choice.calm 20000 120 with arcUnique := system.executorsAlive.isEmpty })).any
            fun after => after.world.stage = .alone) = true := by decide +kernel
  obtain ⟨system, reached, joins, alive, outcome⟩ := exists_of_any left
  obtain ⟨after, stepped, alone⟩ := exists_of_any outcome
  exact ⟨system, after, reached, joins, alive, stepped, alone⟩

end Barista.Node
