import Barista.Node.InstanceStates

/-!
Contract: whether an instance that is not running is ready, or under a deadline.

A finalize clears both columns whenever it settles an instance anywhere but in `running`. Crash
recovery and the vanished-sandbox reconciler move the state alone, and the probe and the
activity path write their column whatever the state has become.

Owns: the two columns at rest, in every run.
-/

namespace Barista.Node

open Foundation Fleet

def InstanceState.isResting : InstanceState → Bool
  | created | paused | stopped | failed | destroyed => true
  | _ => false

def InstanceRow.isQuiet (row : InstanceRow) : Bool :=
  row.ready = false ∧ row.ttlDeadlineMs = none

/-- The writes that leave one of the columns and the state to each other find them agreeing: a
state written outside an operation comes to rest on a quiet row, and readiness or a deadline is
written on a row that is not at rest. -/
def WritesQuietly (system : System) (label : Label) (_ : System) : Prop :=
  match system.made label with
  | some (.setInstanceState id state) =>
    state.isResting = true → (system.world.journal.getInstance id).all InstanceRow.isQuiet = true
  | some (.setInstanceReady id true) | some (.setTtlDeadline id (some _)) =>
    (system.world.journal.stateOf id).any InstanceState.isResting = false
  | _ => True

instance (system : System) (label : Label) (after : System) :
    Decidable (WritesQuietly system label after) := by
  unfold WritesQuietly
  refine Option.casesOn (system.made label) (isTrue trivial) fun query => ?_
  cases query with
  | setInstanceReady id ready => cases ready <;> infer_instance
  | setTtlDeadline id deadlineMs => cases deadlineMs <;> infer_instance
  | _ => infer_instance

variable {agent : Agent} {etags : LeaseVersioning} {system after : System}
  {label : Label} {labels : List Label}

theorem planTransition_resting {kind : OpKind} {source target : InstanceState}
    (planned : planTransition kind kind.states.1 source = some target)
    (resting : target.isResting = true) : source = target := by
  unfold planTransition at planned
  split_ifs at planned with deletes captures legal
  · exact Option.some.inj planned
  · cases planned
    exact captures.2
  · cases planned
    cases kind <;> cases resting

def QuietAtRest (journal : Journal) : Prop :=
  ∀ id row, journal.getInstance id = some row → row.state.isResting = true → row.isQuiet = true

theorem SubmitArgs.moved_quiet {args : SubmitArgs} {recorded : InstanceState} {nowMs : Int}
    {row : InstanceRow} (quiet : row.isQuiet = true) :
    (args.moved recorded nowMs row).isQuiet = true := by
  unfold SubmitArgs.moved SubmitArgs.claimed
  split
  · exact quiet
  · next claim _ =>
      cases claim with
      | ttlExpiry deadlineMs =>
        simpa [InstanceRow.isQuiet, Claim.clear] using (of_decide_eq_true quiet).1
      | wake atMs => exact quiet

theorem QuietAtRest.step (reached : System.reach agent etags labels = some system)
    (quiet : QuietAtRest system.world.journal)
    (stepped : System.next agent etags system label = some after)
    (writes : WritesQuietly system label after) : QuietAtRest after.world.journal := by
  intro id row found resting
  rcases row_cases stepped id with
    same | ⟨query, nowMs, answer, old, new, made, read, written, touches⟩ |
    ⟨args, spec, identity, nowMs, made, creates, -, -, written⟩
  · exact quiet id row (same.symm.trans found) resting
  · cases written.symm.trans found
    have before := quiet id old read
    have left : system.world.journal.stateOf id = some old.state := by
      simp [Journal.stateOf, read]
    obtain ⟨index, role, -, fact⟩ := System.made_fact reached made stepped
    cases query with
    | submitAtomically args =>
      obtain ⟨recorded, -, -, -, planned, -, rfl⟩ := touches
      rw [fact.2] at planned
      have unmoved : old.state = recorded := planTransition_resting planned resting
      exact SubmitArgs.moved_quiet (before (unmoved ▸ resting))
    | finishOperation args =>
      obtain ⟨-, rfl⟩ := touches
      obtain ⟨_, -, -, -, -, -, armed, cleared⟩ := fact
      have elsewhere : args.state ≠ .running := fun running => by
        rw [show (args.advanced nowMs old).state = args.state from rfl, running] at resting
        cases resting
      have unarmed : args.ttlDeadlineMs = none := by
        cases deadline : args.ttlDeadlineMs with
        | none => rfl
        | some deadlineMs => exact absurd (armed (by rw [deadline]; rfl)) elsewhere
      simp [InstanceRow.isQuiet, FinishArgs.advanced, cleared.resolve_right elsewhere, unarmed]
    | setInstanceState target state =>
      obtain ⟨rfl, rfl⟩ := touches
      simp only [WritesQuietly, made, Journal.getInstance_named read, read] at writes
      exact writes resting
    | setInstanceReady target ready =>
      obtain ⟨rfl, rfl⟩ := touches
      split at resting
      · next same =>
          rw [if_pos same]
          exact before resting
      · next other =>
          rw [if_neg other]
          cases ready with
          | false => simpa [InstanceRow.isQuiet] using (of_decide_eq_true (before resting)).2
          | true =>
            simp only [WritesQuietly, made, Journal.getInstance_named read, left,
              Option.any_some] at writes
            cases resting.symm.trans writes
    | setTtlDeadline target deadline =>
      obtain ⟨rfl, rfl⟩ := touches
      cases deadline with
      | none => simpa [InstanceRow.isQuiet] using (of_decide_eq_true (before resting)).1
      | some deadlineMs =>
        simp only [WritesQuietly, made, Journal.getInstance_named read, left,
          Option.any_some] at writes
        cases resting.symm.trans writes
    | claimWake target atMs =>
      obtain ⟨-, -, -, rfl⟩ := touches
      exact before resting
    | setRunEpoch | forgetCredentials | setWakeAt | setInstanceEpoch | insertSnapshot
    | deleteSnapshot =>
      obtain ⟨-, rfl⟩ := touches
      exact before resting
    | _ => exact touches.elim
  · cases written.symm.trans found
    cases resting

/-- **Not running means not ready and unleased**, in every run whose writes outside an operation's
transactions find the two columns and the state agreeing. -/
theorem resting_instances_quiet (agent : Agent) (etags : LeaseVersioning)
    (labels : List Label) (system : System)
    (reached : System.reach agent etags labels = some system)
    (writes : Along (System.next agent etags) WritesQuietly System.initial labels) :
    ∀ row ∈ system.world.journal.instances.rows,
      row.state ∈ [.created, .paused, .stopped, .failed, .destroyed] →
        row.ready = false ∧ row.ttlDeadlineMs = none := by
  have kept := writes.invariant_run (I := fun current => QuietAtRest current.world.journal) ?_
    (by rintro id row ⟨⟩) reached
  · intro row member rests
    have resting : row.state.isResting = true := by
      generalize row.state = state at rests
      cases state <;> first | rfl | simp at rests
    exact of_decide_eq_true (kept row.instanceId row (Journal.getInstance_mem member) resting)
  · intro labels current label later reached _ quiet stepped quietly
    exact quiet.step reached stepped quietly

/-- The running instance is probed and found ready, and a client asks for it to be stopped. -/
def stoppingSession : List Label :=
  System.leasedSession ++ .invoke (.probe ulid) :: System.drive 5 0 56 5 ++
    System.ask (.stopInstance "stop" ulid 5) :: System.drive 6 0 61 5

theorem resting_instances_quiet_stop : ∃ system row, System.reach .plain freshVersions
        (stoppingSession ++ [.launch 0] ++ System.drive 7 0 66 19) = some system ∧
      system.world.journal.getInstance ulid = some row ∧ row.state = .stopped ∧
      row.ready = false ∧ row.ttlDeadlineMs = none := by
  have reachable : ((System.reach .plain freshVersions
      (stoppingSession ++ [.launch 0] ++ System.drive 7 0 66 19)).any fun system =>
        (system.world.journal.getInstance ulid).any fun row => row.state = .stopped) = true := by
    decide +kernel
  have writes : Along (System.next .plain freshVersions) WritesQuietly System.initial
      (stoppingSession ++ [.launch 0] ++ System.drive 7 0 66 19) := by
    decide +kernel
  obtain ⟨system, row, reached, found, stopped⟩ := exists_found_of_any reachable
  exact ⟨system, row, reached, found, stopped, resting_instances_quiet .plain freshVersions _ system
    reached writes row (Table.mem_of_find? found).1 (by simp [stopped])⟩

/-- The node crashes while the stop is in flight. Recovery stops the sandbox and writes `stopped`,
and nothing else. -/
theorem recovered_instance_ready_and_leased : ∃ system row, System.reach .plain freshVersions
        (stoppingSession ++ [.crash, .boot 0] ++ System.drive 7 0 66 4) = some system ∧
      row ∈ system.world.journal.instances.rows ∧ row.state = .stopped ∧
      row.ready = true ∧ row.ttlDeadlineMs = some 60000 :=
  exists_mem_of_any (by decide +kernel)

end Barista.Node
