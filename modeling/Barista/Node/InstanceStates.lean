import Barista.Node.Coverage
import Barista.Node.Steps

/-!
Contract: how the journaled state of an instance moves, in every run of the node.

A state is moved by a submission, by an executor's finalize, by crash recovery, or by the
reconciler that fails instances whose sandbox is gone. Only the first three consult the
table of transitions, or compute a state it would allow.

Owns: the inversion of a move, and which moves are edges of the table.
-/

namespace Barista.Node

open Foundation Fleet

namespace System

def actor (system : System) : Label → Option Role
  | .deliver index _ => (system.tasks[index]?).map Task.role
  | _ => none

/-- Whether a step is a submission, an operation's finalize, or a move of crash recovery. -/
def operates (system : System) (label : Label) : Bool :=
  match system.made label with
  | some (.submitAtomically _) | some (.finishOperation _) => true
  | some (.setInstanceState _ _) => (system.actor label).any Role.isBoot
  | _ => false

def finishesFork (system : System) (label : Label) : Bool :=
  match system.made label with
  | some (.finishOperation args) =>
    args.outcome.isOk &&
      (system.world.journal.getOperation args.opId).any fun op => op.kind = .fork
  | _ => false

variable {agent : Agent} {etags : LeaseVersioning} {labels : List Label}
  {system after : System} {label : Label}

theorem made_fact (reached : reach agent etags labels = some system) {query : Query}
    (made : system.made label = some query) (stepped : next agent etags system label = some after) :
    ∃ index role, system.actor label = some role ∧ Fact agent index role system.world
      (.journal query) := by
  cases label with
  | deliver index choice =>
    obtain ⟨role, act, continuation, answer, world, found, executed, rfl⟩ := Pool.step_cases stepped
    simp only [System.made, found] at made
    split at made
    · next located _ =>
        cases made
        cases located
        obtain ⟨-, ⟨-, fact⟩, -⟩ := (reach_conduct reached).guar found executed trivial
        exact ⟨index, role, by simp [actor, found], fact⟩
    · cases made
  | _ => cases made

end System

/-! ### Moves -/

theorem planned_recorded {executor : Executor} (planned : Planned executor)
    (other : executor.kind ≠ .deleteSnapshot) : executor.recorded = executor.kind.states.1 ∨
      (executor.kind = .createSnapshot ∧ executor.recorded = .paused) := by
  rcases planned.2 with own | ⟨source, chosen⟩
  · exact .inl own
  · unfold planTransition at chosen
    rw [if_neg other] at chosen
    split at chosen
    · next paused => exact .inr ⟨paused.1, (Option.some.inj chosen).symm⟩
    · split at chosen
      · exact .inl (Option.some.inj chosen).symm
      · cases chosen

theorem settledState_deleteSnapshot (recorded : InstanceState)
    (outcome : Except (ErrorReason × String) Unit) :
    settledState .deleteSnapshot recorded outcome = recorded := by
  have own : successState .deleteSnapshot recorded = recorded := by
    unfold successState
    split
    · next same => rw [same]; rfl
    · rfl
  cases outcome <;> exact own

/-- From the state of its own, every kind lands along an edge, but a fork that succeeds. -/
theorem settledState_edge {kind : OpKind} (other : kind ≠ .deleteSnapshot)
    (outcome : Except (ErrorReason × String) Unit) :
    kind.states.1.canTransition (settledState kind kind.states.1 outcome) = true ↔
      ¬ (kind = .fork ∧ outcome.isOk = true) := by
  cases kind <;> cases outcome <;>
    first
    | exact absurd rfl other
    | simp [settledState, successState, OpKind.touchesInstanceState, OpKind.states, Except.isOk,
        Except.toBool, InstanceState.canTransition, InstanceState.isTransitional,
        InstanceState.transitions]

theorem settled_edge {executor : Executor} (planned : Planned executor)
    (outcome : Except (ErrorReason × String) Unit) :
    (settledState executor.kind executor.recorded outcome = executor.recorded ∧
      executor.kind ≠ .fork) ∨
      (executor.recorded.canTransition (settledState executor.kind executor.recorded outcome) =
        true ↔ ¬ (executor.kind = .fork ∧ outcome.isOk = true)) := by
  by_cases deletes : executor.kind = .deleteSnapshot
  · left
    rw [deletes]
    exact ⟨settledState_deleteSnapshot _ _, by decide⟩
  · rcases planned_recorded planned deletes with own | ⟨capture, paused⟩
    · right
      rw [own]
      exact settledState_edge deletes outcome
    · left
      rw [capture, paused]
      exact ⟨by cases outcome <;> rfl, by decide⟩

section Moves

variable {agent : Agent} {etags : LeaseVersioning} {labels : List Label}
  {system after : System} {label : Label} {id : String} {source target : InstanceState}

theorem instances_unmade (unmade : system.made label = none)
    (stepped : System.next agent etags system label = some after) :
    after.world.journal.instances = system.world.journal.instances := by
  rcases System.journal_unmade unmade stepped with same | ⟨nowMs, opIds, -, same⟩
  · rw [same]
  · rw [same, (Journal.failOps_frame ..).1]
    rfl

theorem row_cases (stepped : System.next agent etags system label = some after) (id : String) :
    after.world.journal.getInstance id = system.world.journal.getInstance id ∨
      (∃ query nowMs answer old new, system.made label = some query ∧
        system.world.journal.getInstance id = some old ∧
        after.world.journal.getInstance id = some new ∧ query.Touches nowMs answer old new) ∨
      ∃ args spec identity nowMs, system.made label = some (.submitAtomically args) ∧
        args.createSpec = some spec ∧ args.mintIdentity spec.instanceId = .ok identity ∧
        system.world.journal.getInstance id = none ∧
        after.world.journal.getInstance id = some
          (Journal.newInstance args spec identity nowMs) := by
  cases made : system.made label with
  | none => exact .inl (Journal.getInstance_of_instances (instances_unmade made stepped) id)
  | some query =>
    obtain ⟨nowMs, ⟨answer, ran⟩ | ⟨-, same⟩⟩ := System.journal_made made stepped
    · rcases Query.run_row ran id with
        same | ⟨old, new, read, written, touches⟩ |
        ⟨args, spec, identity, rfl, creates, minted, -, absent, written⟩
      · exact .inl same
      · exact .inr (.inl ⟨query, nowMs, answer, old, new, rfl, read, written, touches⟩)
      · exact .inr (.inr ⟨args, spec, identity, nowMs, rfl, creates, minted, absent, written⟩)
    · exact .inl (by rw [same])

theorem stateOf_stays (stepped : System.next agent etags system label = some after)
    (left : system.world.journal.stateOf id = some source) :
    ∃ target, after.world.journal.stateOf id = some target := by
  unfold Journal.stateOf at left ⊢
  rcases row_cases stepped id with
    same | ⟨_, _, _, _, new, -, -, written, -⟩ | ⟨_, _, _, _, -, -, -, -, written⟩
  · exact ⟨source, same ▸ left⟩
  · exact ⟨new.state, by rw [written]; rfl⟩
  · exact ⟨_, by rw [written]; rfl⟩

/-- **Everything that can move an instance**, in any reachable state. -/
theorem moved_cases (reached : System.reach agent etags labels = some system)
    (stepped : System.next agent etags system label = some after)
    (left : system.world.journal.stateOf id = some source)
    (entered : after.world.journal.stateOf id = some target) (changed : target ≠ source) :
    (∃ args, system.made label = some (.submitAtomically args) ∧
        planTransition args.kind args.kind.states.1 source = some target) ∨
      (∃ index executor args, system.made label = some (.finishOperation args) ∧
        Executing index executor system.world ∧ args.opId = executor.op.opId ∧
        id = executor.op.instanceId ∧
        target = settledState executor.kind executor.recorded args.outcome) ∨
      (system.made label = some (.setInstanceState id target) ∧
        ((system.actor label = some .tick ∧ target = .failed) ∨
          ((system.actor label).any Role.isBoot = true ∧ NoneActive system.world.journal ∧
            source.isTransitional = true ∧ source.canTransition target = true))) := by
  cases made : system.made label with
  | none =>
    rw [Journal.stateOf_of_instances (instances_unmade made stepped), left] at entered
    exact absurd (Option.some.inj entered).symm changed
  | some query =>
    obtain ⟨index, role, acts, fact⟩ := System.made_fact reached made stepped
    obtain ⟨nowMs, ⟨answer, ran⟩ | ⟨-, same⟩⟩ := System.journal_made made stepped
    · rcases Query.run_stateOf ran id with
        same | ⟨args, recorded, rfl, moved, -, -, found, read, planned⟩ | ⟨_, -, absent, -⟩ |
        ⟨args, rfl, named, moved⟩ | ⟨state, rfl, moved⟩
      · rw [same, left] at entered
        exact absurd (Option.some.inj entered).symm changed
      · left
        obtain ⟨-, plan⟩ := fact
        rw [left] at read
        rw [entered] at moved
        cases read
        cases moved
        exact ⟨args, rfl, plan ▸ planned⟩
      · rw [left] at absent
        cases absent
      · obtain ⟨executor, -, executing, opId, instanceId, settled, -⟩ := fact
        rw [entered] at moved
        cases moved
        exact .inr (.inl ⟨index, executor, args, rfl, executing, opId,
          named.trans instanceId, settled⟩)
      · rw [entered] at moved
        cases moved
        refine .inr (.inr ⟨rfl, ?_⟩)
        rcases fact with ⟨rfl, failed, -⟩ | ⟨boots, -, idle, found, read, transitional, legal⟩
        · exact .inl ⟨acts, failed⟩
        · rw [left] at read
          cases read
          exact .inr ⟨by simp [acts, boots], idle, transitional, legal⟩
    · rw [same, left] at entered
      exact absurd (Option.some.inj entered).symm changed

end Moves

/-! ### Edges of the table -/

theorem planTransition_edge {kind : OpKind} {transitional source target : InstanceState}
    (planned : planTransition kind transitional source = some target) :
    target = source ∨ source.canTransition target = true := by
  unfold planTransition at planned
  split at planned
  · exact .inl (Option.some.inj planned).symm
  · split at planned
    · next paused => exact .inl (by rw [← Option.some.inj planned, paused.2])
    · split at planned
      · next legal => exact .inr (Option.some.inj planned ▸ legal)
      · cases planned

theorem Claimed.getOperation {journal : Journal} {executor : Executor}
    (claimed : Claimed journal executor) :
    ∃ op, journal.getOperation executor.op.opId = some op ∧ op.kind = executor.kind ∧
      op.executorActive = true := by
  obtain ⟨op, member, opId, -, kind, active⟩ := claimed.journaled
  cases read : journal.getOperation executor.op.opId with
  | none =>
    have unnamed := Table.find?_none read op member
    simp [opId] at unnamed
  | some found =>
    rw [Journal.getOperation_eq read member opId] at kind active
    exact ⟨found, rfl, kind, active⟩

/-- **Only table edges leave a live state**, unless a fork succeeds: in any reachable state, a
submission, a finalize or crash recovery that takes an instance out of a state other than
`destroyed` and `failed` takes it along an edge of the table if and only if it is not the
finalize of a fork or capsule restore whose work succeeded. -/
theorem live_moves_are_edges_iff (agent : Agent) (etags : LeaseVersioning)
    (labels : List Label) (system after : System) (label : Label) (id : String)
    (source target : InstanceState) (reached : System.reach agent etags labels = some system)
    (stepped : System.next agent etags system label = some after)
    (operates : system.operates label = true)
    (left : system.world.journal.stateOf id = some source) (live : source.isTerminal = false)
    (entered : after.world.journal.stateOf id = some target) (changed : target ≠ source) :
    source.canTransition target = true ↔ system.finishesFork label = false := by
  rcases moved_cases reached stepped left entered changed with
    ⟨args, made, planned⟩ | ⟨index, executor, args, made, executing, opId, named, landed⟩ |
    ⟨made, ⟨ticks, -⟩ | ⟨-, -, -, legal⟩⟩
  · have legal := (planTransition_edge planned).resolve_left changed
    simp [System.finishesFork, made, legal]
  · -- The instance is where the executor's submission put it: a live one was not failed since.
    have recorded : source = executor.recorded := by
      have read := executing.claimed.recorded
      rw [AsRecorded, ← named, left] at read
      refine read.resolve_right fun failed => ?_
      rw [failed] at live
      cases live
    obtain ⟨op, journaled, kind, -⟩ := executing.claimed.getOperation
    have finishes : system.finishesFork label =
      (args.outcome.isOk && decide (executor.kind = .fork)) := by
      simp only [System.finishesFork, made, opId, journaled, Option.any_some, kind]
    rw [recorded] at changed ⊢
    rw [landed] at changed ⊢
    rcases settled_edge executing.planned args.outcome with ⟨same, -⟩ | edge
    · exact absurd same changed
    · rw [edge, finishes, Bool.and_eq_false_iff]
      by_cases fork : executor.kind = .fork <;> cases args.outcome.isOk <;> simp [fork]
  · rw [System.operates, made, ticks] at operates
    cases operates
  · simp [System.finishesFork, made, legal]

/-- The finalize of the first create. -/
theorem live_moves_are_edges_create : ∃ system after, System.reach .plain freshVersions
        (System.ownedSession ++ [.launch 0] ++ System.drive 2 0 35 13) = some system ∧
      System.next .plain freshVersions system (.deliver 2 (.calm 0 48)) = some after ∧
      system.world.journal.stateOf ulid = some .creating ∧ after.world.journal.stateOf ulid =
        some .created ∧
      InstanceState.canTransition .creating .created = true := by
  have run : ((System.reach .plain freshVersions
      (System.ownedSession ++ [.launch 0] ++ System.drive 2 0 35 13)).any fun system =>
      (System.next .plain freshVersions system (.deliver 2 (.calm 0 48))).any fun after =>
        system.operates (.deliver 2 (.calm 0 48)) = true ∧
        system.finishesFork (.deliver 2 (.calm 0 48)) = false ∧
        system.world.journal.stateOf ulid = some .creating ∧
        after.world.journal.stateOf ulid = some .created) = true := by decide +kernel
  obtain ⟨system, after, reached, stepped, operates, other, left, entered⟩ :=
    exists_found_of_any run
  exact ⟨system, after, reached, stepped, left, entered,
    (live_moves_are_edges_iff _ _ _ system after _ ulid .creating .created reached
    stepped operates left
      rfl entered (by decide)).mpr other⟩

/-- A fork that succeeds takes its instance from `creating` to `running`, which is no edge. -/
theorem fork_moves_off_the_table :
    ∃ system after, System.reach .plain freshVersions System.forkedSession = some system ∧
      System.next .plain freshVersions system (.deliver 8 (.calm 0 165)) = some after ∧
      system.operates (.deliver 8 (.calm 0 165)) = true ∧ system.world.journal.stateOf "f" =
        some .creating ∧
      after.world.journal.stateOf "f" = some .running ∧
      InstanceState.canTransition .creating .running = false :=
  exists_found_of_any (by decide +kernel)

end Barista.Node
