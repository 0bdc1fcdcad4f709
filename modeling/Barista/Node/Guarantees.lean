import Barista.Node.ForkSources
import Barista.Node.PauseResume
import Barista.Node.Requests

/-!
Contract: what a client and an operator of a node may count on, whatever runs and whenever it crashes.

Owns: that one task at a time acts on an instance, that a key is answered with its operation for good, and
that a deadline fires once.
-/

namespace Barista.Node

open Foundation Fleet

variable {agent : Agent} {etags : LeaseVersioning} {system accepted last after : System}
  {label : Label} {labels : List Label} {args other : SubmitArgs} {recorded : InstanceState}

/-- **One task at a time acts on an instance.** Two executors that are about to call the substrate for one
instance are one, and its operation is journaled and claims the instance. -/
theorem substrate_calls_exclusive {index again : Nat} {executor second : Executor}
    {call called : RuntimeCall}
    {next : call.Answer → NodeProg Unit} {nextAgain : called.Answer → NodeProg Unit}
    (reached : System.reach agent etags labels = some system)
    (found : system.tasks[index]? = some ⟨.executor executor, .step (.runtime call) next⟩)
    (foundAgain : system.tasks[again]? = some ⟨.executor second, .step (.runtime called) nextAgain⟩)
    (same : executor.op.instanceId = second.op.instanceId) :
    index = again ∧ executor.op.opId = second.op.opId ∧ Claimed system.world.journal executor := by
  have accounted := reach_accounted reached
  have executing := accounted.calling found
  obtain ⟨one, oneOp⟩ := executing.same accounted.claims (accounted.calling foundAgain) same
  exact ⟨one, oneOp, executing.claimed⟩

/-- The fork of an instance is under way. -/
theorem substrate_calls_exclusive_fork : ∃ system executor call next,
    System.reach .plain freshVersions forkingSession = some system ∧
      system.tasks[8]? = some ⟨.executor executor, .step (.runtime call) next⟩ ∧
      Claimed system.world.journal executor := by
  have reachable : ((System.reach .plain freshVersions forkingSession).any fun system =>
      system.forking 8 = some ⟨"f", ulid, "snapshot"⟩) = true := by decide +kernel
  obtain ⟨system, reached, forking⟩ := exists_of_any reachable
  unfold System.forking at forking
  split at forking
  · next found =>
      exact ⟨system, _, _, _, reached, found,
        (substrate_calls_exclusive reached found found rfl).2.2⟩
  · cases forking

/-- **A key is answered with its operation for good.** Whatever runs after a submission was journaled, its
operation is in the journal as it was asked for, and every submission under its key is answered with
it and writes nothing. -/
theorem accepted_key_replayed (stepped : System.next agent etags system label = some accepted)
    (journaled : system.journaled etags label = some (args, recorded))
    (ran : run (System.next agent etags) accepted labels = some last)
    (reused : other.idempotencyKey = args.idempotencyKey) (nowMs : Int) :
    ∃ op ∈ last.world.journal.operations.rows, op.asked = (Journal.newOperation args).asked ∧
      last.world.journal.submitAtomically other nowMs = .ok (.replay op, last.world.journal) := by
  obtain ⟨-, _, submitted⟩ := System.journaled_cases stepped journaled
  obtain ⟨op, used, same⟩ :=
    Journal.findOp_of_requests (requests_run ran (Journal.requests_journaled submitted))
  have keyed : last.world.journal.findOpByIdempotencyKey other.idempotencyKey = some op := by
    rw [reused]
    exact used
  exact ⟨op, (Table.mem_of_find? used).1, same, submitAtomically_replay keyed nowMs⟩

/-- The TTL of a running instance is over, and the scan that found it is about to journal its pause. -/
def dueSession : List Label :=
  System.leasedSession ++ .invoke .scan :: System.drive 5 60001 57 4

/-- The pause is journaled, and the process crashes and comes up again. -/
def DueRestarted (last : System) (args : SubmitArgs) : Prop :=
  ∃ system accepted recorded, System.reach .plain freshVersions dueSession = some system ∧
    System.next .plain freshVersions system (.deliver 5 (.calm 60001 61)) = some accepted ∧
    system.journaled freshVersions (.deliver 5 (.calm 60001 61)) = some (args, recorded) ∧
    args.claim = some (.ttlExpiry 60000) ∧
    run (System.next .plain freshVersions) accepted [.crash, .boot 60002] = some last

theorem dueRestarted : ∃ last args, DueRestarted last args := by
  have reachable : ((System.reach .plain freshVersions dueSession).any fun system =>
      (System.next .plain freshVersions system (.deliver 5 (.calm 60001 61))).any fun accepted =>
        (system.journaled freshVersions (.deliver 5 (.calm 60001 61))).any fun journaled =>
          journaled.1.claim = some (.ttlExpiry 60000) ∧
            (run (System.next .plain freshVersions) accepted [.crash, .boot 60002]).isSome) =
            true := by
    decide +kernel
  obtain ⟨system, reached, facts⟩ := (Option.any_eq_true _ _).mp reachable
  obtain ⟨accepted, stepped, facts⟩ := (Option.any_eq_true _ _).mp facts
  obtain ⟨⟨args, recorded⟩, journaled, claims, runs⟩ := exists_of_any facts
  obtain ⟨last, ran⟩ := Option.isSome_iff_exists.mp runs
  exact ⟨last, args, system, accepted, recorded, reached, stepped, journaled, claims, ran⟩

theorem accepted_key_replayed_restart : ∃ last args op, DueRestarted last args ∧
    last.world.journal.submitAtomically args 60003 = .ok (.replay op, last.world.journal) := by
  obtain ⟨last, args, due⟩ := dueRestarted
  obtain ⟨system, accepted, recorded, -, stepped, journaled, -, ran⟩ := id due
  obtain ⟨op, -, -, replayed⟩ := accepted_key_replayed stepped journaled ran rfl 60003
  exact ⟨last, args, op, due, replayed⟩

/-! ### Deadlines -/

/-- The calls that set the deadline a claim names. -/
def Claim.ArmedBy (id : String) : Claim → Query → Prop
  | .ttlExpiry deadlineMs, .finishOperation args =>
    args.instanceId = id ∧ args.ttlDeadlineMs = some deadlineMs
  | .ttlExpiry deadlineMs, .setTtlDeadline target set => target = id ∧ set = some deadlineMs
  | .wake atMs, .setWakeAt target set => target = id ∧ set = some atMs
  | _, _ => False

/-- The deadline a claim names is not that of the instance, now or at any time. -/
def Claim.Spent (claim : Claim) (id : String) (system : System) : Prop :=
  ∀ row nowMs, system.world.journal.getInstance id = some row → claim.due nowMs row = false

variable {claim : Claim} {id : String}

theorem Claim.due_touched {query : Query} {nowMs atMs : Int} {answer : query.Answer}
    {old new : InstanceRow}
    (touches : query.Touches nowMs answer old new) (due : claim.due atMs new = true) :
    claim.due atMs old = true ∨ claim.ArmedBy old.instanceId query := by
  -- A deadline has its own calls; every other write keeps or clears it.
  cases query <;> grind [cases Claim, Query.Touches, Claim.due, Claim.ArmedBy, Claim.clear,
    SubmitArgs.moved, SubmitArgs.claimed, FinishArgs.advanced]

theorem Claim.Spent.step (spent : claim.Spent id system)
    (stepped : System.next agent etags system label = some after)
    (unset : ∀ query, system.made label = some query → ¬ claim.ArmedBy id query) :
    claim.Spent id after := by
  intro row nowMs found
  rcases row_cases stepped id with
    same | ⟨query, _, _, old, new, made, read, written, touches⟩ | ⟨_, _, _, _, -, -, -, -, created⟩
  · exact spent row nowMs (same.symm.trans found)
  · cases written.symm.trans found
    by_contra due
    rcases claim.due_touched touches (Bool.not_eq_false _ ▸ due) with before | arms
    · exact absurd (spent old nowMs read) (by simp [before])
    · exact unset query made (Journal.getInstance_named read ▸ arms)
  · cases created.symm.trans found
    cases claim <;> rfl

theorem Claim.spends (stepped : System.next agent etags system label = some after)
    (journaled : system.journaled etags label = some (args, recorded))
    (claims : args.claim = some claim) :
    ¬ claim.Spent args.instanceId system ∧ claim.Spent args.instanceId after := by
  obtain ⟨-, nowMs, submitted⟩ := System.journaled_cases stepped journaled
  obtain ⟨planned, -, -, -, base, claimed, written⟩ := Journal.submitAtomically_journaled submitted
  obtain ⟨row, found, due⟩ : ∃ row, system.world.journal.getInstance args.instanceId = some row ∧
      claim.due nowMs row = true := by
    rcases claimed with ⟨unclaimed, -⟩ | ⟨_, isIt, taken⟩
    · cases claims.symm.trans unclaimed
    · cases claims.symm.trans isIt
      exact Journal.takeDeadline_due taken
  refine ⟨fun spent => absurd (spent row nowMs found) (by simp [due]), fun current atMs read => ?_⟩
  obtain ⟨-, ⟨operations, -, stored⟩, -⟩ := Journal.recordSubmission_cases written
  have moves : args.createSpec = none := by
    cases creates : args.createSpec <;> simp_all [Journal.plannedState]
  have moved := Journal.recordInstance_moves moves stored args.instanceId
  rw [if_pos rfl, show Journal.getInstance { base with operations := operations } _ = _ from
    claimed.getInstance _, if_pos rfl, found] at moved
  cases moved.symm.trans read
  cases claim <;> simp [SubmitArgs.claimed, claims, Claim.clear, Claim.due]

/-- **A deadline fires once.** After a submission has claimed a deadline of an instance none claims it again,
whatever runs in between, until a call sets it anew. -/
theorem deadline_fires_once (claims : args.claim = some claim)
    (journaled : system.journaled etags label = some (args, recorded))
    (stepped : System.next agent etags system label = some accepted)
    (ran : run (System.next agent etags) accepted labels = some last)
    (unset : Along (System.next agent etags) (fun current label _ => ∀ query,
      current.made label = some query → ¬ claim.ArmedBy args.instanceId query) accepted labels)
    {again : Label} {planned : InstanceState}
    (further : System.next agent etags last again = some after)
    (second : last.journaled etags again = some (other, planned)) :
    other.claim = some claim → other.instanceId ≠ args.instanceId := by
  intro sameClaim sameInstance
  have spent : claim.Spent args.instanceId last :=
    unset.invariant (I := claim.Spent args.instanceId) (fun spent step met => spent.step step met)
      (Claim.spends stepped journaled claims).2 ran
  exact (Claim.spends further second sameClaim).1 (sameInstance ▸ spent)

theorem deadline_fires_once_restart : ∃ last args, DueRestarted last args ∧
    ∀ again after other planned, System.next .plain freshVersions last again = some after →
      last.journaled freshVersions again = some (other, planned) →
      other.claim = some (.ttlExpiry 60000) → other.instanceId ≠ args.instanceId := by
  obtain ⟨last, args, due⟩ := dueRestarted
  obtain ⟨system, accepted, recorded, -, stepped, journaled, claims, ran⟩ := id due
  refine ⟨last, args, due, fun again after other planned =>
    deadline_fires_once claims journaled stepped ran
      (Along.of_labels fun label member _ _ query made => ?_)⟩
  rcases List.mem_pair.mp member with rfl | rfl <;> cases made

end Barista.Node
