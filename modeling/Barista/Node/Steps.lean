import Barista.Node.System

/-!
Contract: what one step of the system can do to the journal.

Owns: the call on the journal a step makes, the inversion of a step by it, and a session
that comes up undisturbed and is forked, which concrete runs start from.
-/

namespace Barista.Node

open Foundation Fleet

namespace System

/-- The call a step makes on the journal, if the journal can be reached. -/
def made (system : System) : Label → Option Query
  | .deliver index choice =>
    match system.tasks[index]?, choice.journalError with
    | some ⟨_, .step (.journal query) _⟩, none => some query
    | _, _ => none
  | _ => none

variable {agent : Agent} {etags : LeaseVersioning} {system after : System}
  {label : Label}

theorem made_located {query : Query} (made : system.made label = some query) :
    ∃ index choice role continuation, label = .deliver index choice ∧ choice.journalError = none ∧
      system.tasks[index]? = some ⟨role, .step (.journal query) continuation⟩ := by
  cases label with
  | deliver index choice =>
    simp only [System.made] at made
    split at made
    · next role act continuation found reachable =>
        cases made
        exact ⟨index, choice, role, continuation, rfl, reachable, found⟩
    · cases made
  | _ => cases made

theorem world_made {query : Query} (made : system.made label = some query)
    (stepped : next agent etags system label = some after) :
    ∃ index nowMs, (∃ answer journal, query.run nowMs system.world.journal = .ok (answer, journal) ∧
        after.world = { system.world with
          journal := journal, aux := system.world.aux.query index query answer }) ∨
      ((∃ cause, query.run nowMs system.world.journal = .error cause) ∧
        after.world = system.world) := by
  obtain ⟨index, choice, role, continuation, rfl, reachable, located⟩ := made_located made
  cases next_cases stepped with
  | deliver found executed =>
    cases located.symm.trans found
    refine ⟨index, choice.nowMs, ?_⟩
    simp only [nodeMachine, World.exec, World.query, reachable] at executed
    split at executed
    · next result journal ran =>
        cases executed
        exact .inl ⟨result, journal, ran, rfl⟩
    · next cause ran =>
        cases executed
        exact .inr ⟨⟨cause, ran⟩, rfl⟩

theorem journal_made {query : Query} (made : system.made label = some query)
    (stepped : next agent etags system label = some after) :
    ∃ nowMs, (∃ answer, query.run nowMs system.world.journal = .ok (answer, after.world.journal)) ∨
      ((∃ cause, query.run nowMs system.world.journal = .error cause) ∧
        after.world.journal = system.world.journal) := by
  obtain ⟨index, nowMs, ⟨answer, journal, ran, written⟩ | ⟨refused, same⟩⟩ :=
    world_made made stepped
  · exact ⟨nowMs, .inl ⟨answer, by rw [written]; exact ran⟩⟩
  · exact ⟨nowMs, .inr ⟨refused, by rw [same]⟩⟩

theorem exec_unmade {index : Nat} {choice : Choice} {role : Role} {act : NodeAct}
    {continuation : NodeSig.Ans act → NodeProg Unit} {answer : NodeSig.Ans act} {world : World}
    (unmade : system.made (.deliver index choice) = none)
    (found : system.tasks[index]? = some ⟨role, .step act continuation⟩)
    (executed : (nodeMachine etags).exec index act choice system.world = some (answer, world)) :
    (∀ query, act ≠ .journal query) ∨ world = system.world := by
  by_cases isQuery : ∃ query, act = .journal query
  · obtain ⟨query, rfl⟩ := isQuery
    simp only [System.made, found] at unmade
    cases unreachable : choice.journalError with
    | none =>
      rw [unreachable] at unmade
      cases unmade
    | some cause =>
      simp only [nodeMachine, World.exec, World.query, unreachable] at executed
      cases executed
      exact .inr rfl
  · exact .inl fun query same => isQuery ⟨query, same⟩

/-- A step that makes no call leaves the journal alone, unless it starts the process: then
operations found in flight are failed. -/
theorem journal_unmade (unmade : system.made label = none)
    (stepped : next agent etags system label = some after) :
    after.world.journal = system.world.journal ∨
      ∃ nowMs opIds, (∀ opId ∈ opIds, opId ∈ system.world.journal.openJournal.inFlightOps) ∧
        after.world.journal = system.world.journal.openJournal.failOps restartMessage
          nowMs opIds := by
  cases next_cases stepped with
  | deliver found executed =>
    left
    rcases exec_unmade unmade found executed with elsewhere | rfl
    · exact exec_journal executed elsewhere
    · rfl
  | launch | tick | invoke | peer | desire | crash => exact .inl rfl
  | open_ => exact .inr ⟨_, _, fun _ => List.mem_of_mem_take, rfl⟩
  | boot => exact .inr ⟨_, _, fun _ => id, rfl⟩

theorem recorded_unmade (unmade : system.made label = none)
    (stepped : next agent etags system label = some after) {opId : String}
    {recorded : InstanceState} (noted : after.world.aux.recorded opId = some recorded) :
    system.world.aux.recorded opId = some recorded := by
  cases next_cases stepped with
  | deliver found executed =>
    rcases exec_unmade unmade found executed with elsewhere | rfl
    · have same := exec_recorded executed fun _ => elsewhere _
      exact (congrFun same opId).symm.trans noted
    · exact noted
  | launch | tick | invoke | peer | desire | open_ => exact noted
  | crash | boot => cases noted

/-! ### A session comes up -/

/-- Session `s` is desired; the node boots, owns it, and submits the create of its instance. -/
def ownedSession : List Label :=
  .desire [⟨"s", some ⟨1, "s", [], .coldboot⟩⟩] :: .boot 0 :: drive 0 0 0 4 ++
    .tick :: drive 1 0 4 31

/-- The create runs, and the next tick's start after it: the instance is running. -/
def startedSession : List Label :=
  ownedSession ++ .launch 0 :: drive 2 0 35 20 ++ .tick :: drive 3 0 55 28 ++
    .launch 0 :: drive 4 0 83 24

def ask (request : Rpc) : Label := .invoke (.call request)

/-- With no session desired, a client creates an instance under a TTL of a minute, and starts it. -/
def leasedSession : List Label :=
  .boot 0 :: drive 0 0 0 4 ++ ask (.createInstance "c" (some (.pinned ulid 60)) false) ::
    drive 1 0 4 6 ++ .launch 0 :: drive 2 0 10 18 ++ ask (.startInstance "s" ulid) ::
    drive 3 0 28 5 ++ .launch 0 :: drive 4 0 33 23

/-- Snapshot `snapshot` of the running instance is captured. -/
def capturedSession : List Label :=
  startedSession ++ ask (.createSnapshot "capture" ulid "") :: drive 5 0 107 5 ++
    .launch 0 :: drive 6 0 112 30

/-- A fork of that instance, at its snapshot, into instance `f`. -/
def forkRequest : Rpc := .forkInstance ⟨"fork", "f", "snapshot", false, none⟩

/-- The running instance is forked, and the fork's work succeeds: its finalize is next. -/
def forkedSession : List Label :=
  capturedSession ++ ask forkRequest :: drive 7 0 142 7 ++ .launch 0 :: drive 8 0 149 16

end System

end Barista.Node
