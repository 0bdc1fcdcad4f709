import Barista.Node.Readiness
import Barista.Node.Recovery

/-!
Contract: whether a destroyed instance still holds its credentials.

Crash recovery writes `destroyed` and scrubs the credentials in two statements. A finalize
writes `destroyed` and scrubs nothing.

Owns: the credential columns of destroyed instances, in every run.
-/

namespace Barista.Node

open Foundation Fleet
open Prog (After)

/-- A guest token, or any of the five columns of a channel identity. -/
def InstanceRow.hasCredentials (row : InstanceRow) : Bool :=
  row.guestToken ≠ "" ∨ row.identity ≠ none

def scrubs : NodeTask → Option String
  | ⟨.boot _, .step (.journal (.forgetCredentials id)) _⟩ => some id
  | _ => none

/-- No finalize destroys an instance that holds credentials; and once recovery has written
`destroyed`, the process lives and the journal answers until the credentials are scrubbed. -/
def ScrubsThrough (system : System) (label : Label) (_ : System) : Prop :=
  match label with
  | .crash => ∀ task ∈ system.tasks, scrubs task = none
  | .deliver index choice =>
    (choice.journalError ≠ none → (system.tasks[index]?).bind scrubs = none) ∧
      match system.made label with
      | some (.finishOperation args) => args.state = .destroyed →
          (system.world.journal.getInstance args.instanceId).any InstanceRow.hasCredentials = false
      | _ => True
  | _ => True

instance (system : System) (label : Label) (after : System) :
    Decidable (ScrubsThrough system label after) := by
  unfold ScrubsThrough
  split
  · infer_instance
  · refine @instDecidableAnd _ _ inferInstance ?_
    split <;> infer_instance
  · infer_instance

variable {agent : Agent} {etags : LeaseVersioning} {system after : System}
  {label : Label} {labels : List Label} {id : String}

theorem scrub_follows {failed : List OperationRow} {trace : NodeTrace} {nowMs : Int}
    {residual : NodeProg Unit} (reached : After (boot agent failed)
      (trace ++ [⟨.journal (.setInstanceState id .destroyed), .ok nowMs⟩]) residual)
    (distinct : ∀ exchange ∈ trace, ListsDistinctly exchange) :
    scrubs ⟨.boot failed, residual⟩ = some id := by
  have unscrubbed :
      Unscrubbed (trace ++ [⟨.journal (.setInstanceState id .destroyed), .ok nowMs⟩]) id :=
    unscrubbed_snoc.mpr ⟨nowMs, rfl⟩
  have heeds := (heeds_boot agent failed).after reached (by
    rw [List.forall_mem_append]
    refine ⟨distinct, ?_⟩
    rw [List.forall_mem_singleton]
    rintro rows ⟨⟩)
  rw [List.nil_append] at heeds
  cases residual with
  | pure value => exact absurd unscrubbed (heeds id)
  | step act next =>
    rcases heeds.1 with recovers | ⟨-, recovered⟩ | ⟨joining, -⟩
    · cases recovers.2 id unscrubbed
      rfl
    · exact absurd unscrubbed (recovered.scrubbed id)
    · exact absurd unscrubbed (joining.scrubbed id)

/-- Every destroyed instance that holds credentials is about to lose them. -/
def Scrubbing (system : System) : Prop :=
  ∀ id row, system.world.journal.getInstance id = some row → row.state = .destroyed →
    row.hasCredentials = true → ∃ task ∈ system.tasks, scrubs task = some id

theorem scrubs_boot {task : NodeTask} (scrubbing : scrubs task = some id) :
    ∃ failed next, task = ⟨.boot failed, .step (.journal (.forgetCredentials id)) next⟩ := by
  unfold scrubs at scrubbing
  split at scrubbing
  · cases scrubbing
    exact ⟨_, _, rfl⟩
  · cases scrubbing

theorem scrubs_step (reached : System.reach agent etags labels = some system)
    (stepped : System.next agent etags system label = some after)
    (through : ScrubsThrough system label after) {task : NodeTask} (member : task ∈ system.tasks)
    (scrubbing : scrubs task = some id) : (∃ task ∈ after.tasks, scrubs task = some id) ∨
      ∀ row, after.world.journal.getInstance id = some row → row.hasCredentials = false := by
  obtain ⟨failed, next, rfl⟩ := scrubs_boot scrubbing
  cases System.next_cases stepped with
  | @deliver index choice role act continuation answer world found executed =>
    obtain ⟨position, located⟩ := List.mem_iff_getElem?.mp member
    by_cases same : position = index
    · right
      subst same
      cases located.symm.trans found
      have reachable : choice.journalError = none := by
        by_contra unreachable
        have idle := through.1 unreachable
        rw [located] at idle
        cases idle.symm.trans scrubbing
      simp only [nodeMachine, World.exec, World.query, reachable] at executed
      cases executed
      intro row left
      rw [Journal.forgetCredentials, Journal.getInstance_updateInstance, if_pos rfl] at left
      obtain ⟨old, -, rfl⟩ := Option.map_eq_some_iff.mp left
      simp [InstanceRow.hasCredentials]
    · left
      have kept := (List.getElem?_set_ne (a := ⟨role, continuation answer⟩) (Ne.symm same)).trans
        located
      exact ⟨_, List.mem_of_getElem? kept, scrubbing⟩
  | crash => cases (through _ member).symm.trans scrubbing
  | boot down =>
    rcases reach_halted reached down _ member with isPeer | returned
    · cases isPeer
    · cases returned
  | launch | tick | invoke | peer => exact .inl ⟨_, List.mem_append_left _ member, scrubbing⟩
  | desire | open_ => exact .inl ⟨_, member, scrubbing⟩

theorem destroyed_scrubs (reached : System.reach agent etags labels = some system)
    (stepped : System.next agent etags system label = some after)
    (made : system.made label = some (.setInstanceState id .destroyed)) :
    ∃ task ∈ after.tasks, scrubs task = some id := by
  obtain ⟨index, role, acts, fact⟩ := System.made_fact reached made stepped
  obtain ⟨index, choice, role', continuation, rfl, reachable, found⟩ := System.made_located made
  simp only [System.actor, found, Option.map_some, Option.some.injEq] at acts
  subst acts
  obtain ⟨_, _, _, answer, world, found', executed, rfl⟩ := Pool.step_cases stepped
  cases found.symm.trans found'
  rcases fact with ⟨-, failed, -⟩ | ⟨boots, -⟩
  · cases failed
  cases role' with
  | boot failed =>
    simp only [nodeMachine, World.exec, World.query, reachable] at executed
    cases executed
    have residual := (System.next_residual reached found).snoc (.ok choice.nowMs)
    have scrubbing := scrub_follows residual
      (System.traces_satisfy exec_listsDistinctly reached index)
    refine ⟨_, List.mem_of_getElem? (List.getElem?_set_self ?_), scrubbing⟩
    exact (List.getElem?_eq_some_iff.mp found).1
  | _ => cases boots

@[simp]
theorem SubmitArgs.moved_hasCredentials {args : SubmitArgs} {recorded : InstanceState}
    {nowMs : Int} {row : InstanceRow} :
    (args.moved recorded nowMs row).hasCredentials = row.hasCredentials := by
  unfold SubmitArgs.moved SubmitArgs.claimed
  split
  · rfl
  · next claim _ => cases claim <;> rfl

theorem ScrubsThrough.finishes {args : FinishArgs} (through : ScrubsThrough system label after)
    (made : system.made label = some (.finishOperation args)) (destroys : args.state = .destroyed) :
    (system.world.journal.getInstance args.instanceId).any InstanceRow.hasCredentials = false := by
  cases label with
  | deliver index choice =>
    have bare := through.2
    rw [made] at bare
    exact bare destroys
  | _ => cases made

theorem Scrubbing.step (reached : System.reach agent etags labels = some system)
    (scrubbing : Scrubbing system) (stepped : System.next agent etags system label = some after)
    (through : ScrubsThrough system label after) : Scrubbing after := by
  intro id row found destroyed holds
  -- A row that was already like this is being scrubbed, and is not scrubbed yet.
  have kept {old : InstanceRow} (read : system.world.journal.getInstance id = some old)
      (wasDestroyed : old.state = .destroyed) (held : old.hasCredentials = true) :
      ∃ task ∈ after.tasks, scrubs task = some id := by
    obtain ⟨task, member, isScrub⟩ := scrubbing id old read wasDestroyed held
    rcases scrubs_step reached stepped through member isScrub with still | done
    · exact still
    · cases (done row found).symm.trans holds
  rcases row_cases stepped id with
    same | ⟨query, nowMs, answer, old, new, made, read, written, touches⟩ |
    ⟨args, spec, identity, nowMs, made, creates, -, -, written⟩
  · exact kept (same.symm.trans found) destroyed holds
  · cases written.symm.trans found
    cases query with
    | submitAtomically args =>
      obtain ⟨recorded, -, -, -, planned, -, rfl⟩ := touches
      obtain ⟨_, _, -, fact⟩ := System.made_fact reached made stepped
      rw [fact.2] at planned
      have unmoved := planTransition_resting planned
        (show recorded.isResting = true by rw [show recorded = .destroyed from destroyed]; rfl)
      rw [SubmitArgs.moved_hasCredentials] at holds
      exact kept read (unmoved.trans destroyed) holds
    | finishOperation args =>
      obtain ⟨named, rfl⟩ := touches
      have bare := through.finishes made destroyed
      rw [← named, Journal.getInstance_named read, read] at bare
      cases holds.symm.trans bare
    | setInstanceState target state =>
      obtain ⟨rfl, rfl⟩ := touches
      rw [Journal.getInstance_named read] at made
      cases destroyed
      exact destroyed_scrubs reached stepped made
    | forgetCredentials target =>
      obtain ⟨-, rfl⟩ := touches
      simp [InstanceRow.hasCredentials] at holds
    | setInstanceReady target ready =>
      obtain ⟨-, rfl⟩ := touches
      split at destroyed <;> split at holds <;> exact kept read destroyed holds
    | claimWake target atMs =>
      obtain ⟨-, -, -, rfl⟩ := touches
      exact kept read destroyed holds
    | setRunEpoch | setTtlDeadline | setWakeAt | setInstanceEpoch | insertSnapshot
    | deleteSnapshot =>
      obtain ⟨-, rfl⟩ := touches
      exact kept read destroyed holds
    | _ => exact touches.elim
  · cases written.symm.trans found
    cases destroyed

theorem reach_scrubbing (reached : System.reach agent etags labels = some system)
    (through : Along (System.next agent etags) ScrubsThrough System.initial labels) :
    Scrubbing system := by
  refine through.invariant_run (I := Scrubbing) ?_ (by rintro id row ⟨⟩) reached
  intro labels current label later reached _ scrubbing stepped step
  exact scrubbing.step reached stepped step

/-- **Destroyed instances hold no credentials**, in every run whose finalizes destroy only bare
rows and whose recoveries scrub what they destroy. The row recovery has just written, and whose
scrub is its next statement, is the one that is left. -/
theorem destroyed_instances_bare (agent : Agent) (etags : LeaseVersioning)
    (labels : List Label) (system : System)
    (reached : System.reach agent etags labels = some system)
    (through : Along (System.next agent etags) ScrubsThrough System.initial labels) :
    ∀ row ∈ system.world.journal.instances.rows, row.state = .destroyed →
      (∀ task ∈ system.tasks, scrubs task ≠ some row.instanceId) →
        row.guestToken = "" ∧ row.identity = none := by
  intro row member destroyed settled
  by_contra holds
  have credentials : row.hasCredentials = true := by
    simp only [InstanceRow.hasCredentials, decide_eq_true_eq]
    tauto
  obtain ⟨task, queued, scrubbing⟩ := reach_scrubbing reached through row.instanceId row
    (Journal.getInstance_mem member) destroyed credentials
  exact settled task queued scrubbing

/-- Recovery finishes a destroy the crash interrupted. -/
theorem destroyed_instances_bare_recovered : ∃ system row, System.reach .plain freshVersions
        (destroyingSession ++ [.boot 0] ++ System.drive 6 0 61 5) = some system ∧
      row ∈ system.world.journal.instances.rows ∧ row.state = .destroyed ∧
      row.guestToken = "" ∧ row.identity = none := by
  have reachable : ((System.reach .plain freshVersions
      (destroyingSession ++ [.boot 0] ++ System.drive 6 0 61 5)).any fun system =>
        (system.world.journal.getInstance ulid).any fun row => row.state = .destroyed ∧
          ∀ task ∈ system.tasks, scrubs task ≠ some row.instanceId) = true := by
    decide +kernel
  have through : Along (System.next .plain freshVersions) ScrubsThrough System.initial
      (destroyingSession ++ [.boot 0] ++ System.drive 6 0 61 5) := by
    decide +kernel
  obtain ⟨system, row, reached, found, destroyed, settled⟩ := exists_found_of_any reachable
  have member := (Table.mem_of_find? found).1
  exact ⟨system, row, reached, member, destroyed, destroyed_instances_bare .plain freshVersions _
    system reached through row member destroyed settled⟩

/-- A destroy that a client asks for runs to its end. -/
theorem finalized_destroy_keeps_token : ∃ system row, System.reach .plain freshVersions
        (System.leasedSession ++ [System.ask (.destroyInstance "destroy" ulid false)] ++
          System.drive 5 0 56 5 ++ [.launch 0] ++ System.drive 6 0 61 19) = some system ∧
      row ∈ system.world.journal.instances.rows ∧ row.state = .destroyed ∧
      row.guestToken ≠ "" ∧ system.tasks.all (fun task => decide (scrubs task = none)) = true :=
  exists_mem_of_any (by decide +kernel)

end Barista.Node
