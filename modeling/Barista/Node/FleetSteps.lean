import Barista.Node.Statements
import Barista.Node.Coverage
import Barista.Node.Steps

/-!
Contract: what a fleet step leaves behind.

`materialise` and the destroy arm of the release sweep advance a session by submitting one
operation, under a key made of the verb, the name, the epoch and the instance. The journal
answers a key it knows with the operation that first used it, so whether a step sets anything
in motion depends on what that operation has come to since.

Owns: the submission a fleet step makes, and exactly when it makes progress.
-/

namespace Barista.Node

open Foundation Fleet
open Prog (Ran ran_pure ran_step ran_bind)

/-! ### Submissions -/

section Submissions

variable {agent : Agent} {kind : OpKind} {instanceId key : String} {payload : OpPayload}
  {trace : NodeTrace}

theorem checkReplay_submitted {original op : OperationRow}
    (ran : Ran (checkReplay kind instanceId payload original) trace (.ok (.submitted op))) :
    original.instanceId = instanceId := by
  unfold checkReplay at ran
  split at ran
  · cases (ran_pure ran).2
  · next same =>
      simp only [ne_eq, not_or, not_not] at same
      exact same.2.1

theorem submit_ok {op : OperationRow}
    (ran : Ran (submit agent kind instanceId key payload) trace (.ok op)) :
    ∃ args answer, ⟨.journal (.submitAtomically args), answer⟩ ∈ trace ∧
      args.instanceId = instanceId ∧ args.idempotencyKey = key ∧
      ((∃ recorded, answer = .ok (.journaled recorded)) ∨
        ∃ original, answer = .ok (.replay original) ∧ original.instanceId = instanceId) := by
  obtain ⟨submitting, value, returning, rfl, submitted, returned⟩ := ran_bind ran
  have isSubmitted : ∃ op, value = .ok (.submitted op) := by
    rcases value with refusal | submission
    · cases (ran_pure returned).2
    · cases submission with
      | submitted op => exact ⟨op, rfl⟩
      | superseded => cases (ran_pure returned).2
  obtain ⟨op, rfl⟩ := isSubmitted
  rcases submitClaiming_ran submitted with
    ⟨-, _, refused, -⟩ | ⟨opId, guestToken, createdAtMs, early, answer, rest, rfl, -, answered⟩
  · cases refused
  refine ⟨_, answer, List.mem_append_left _ List.mem_append_cons_self, rfl, rfl, ?_⟩
  rcases answer with cause | submission
  · cases (ran_pure answered).2
  · cases submission with
    | journaled recorded => exact .inl ⟨recorded, rfl⟩
    | replay original => exact .inr ⟨original, rfl, checkReplay_submitted answered⟩
    | conflict => cases (ran_pure answered).2
    | rejected message => cases (ran_pure answered).2
    | claimSuperseded => cases (ran_pure answered).2

theorem submit_destroy {keepSnapshots : Bool} {value : Except SubmitError OperationRow}
    (ran : Ran (submit agent .destroy instanceId key (.destroy keepSnapshots)) trace value)
    (keyed : key ≠ "") :
    ∃ opId guestToken createdAtMs answer, ⟨.journal (.submitAtomically (submitArgs agent .destroy
      instanceId key (.destroy keepSnapshots) none opId guestToken createdAtMs)), answer⟩ ∈
        trace := by
  obtain ⟨submitting, result, returning, rfl, submitted, -⟩ := ran_bind ran
  rcases submitClaiming_ran submitted with
    ⟨-, _, -, keyless | ⟨_, minted⟩ | ⟨_, checked⟩⟩ |
    ⟨opId, guestToken, createdAtMs, early, answer, rest, rfl, -, -⟩
  · exact absurd keyless keyed
  · cases (ran_pure minted).2
  · cases (ran_pure checked).2
  · exact ⟨opId, guestToken, createdAtMs, answer, List.mem_append_left _ List.mem_append_cons_self⟩

end Submissions

/-! ### Progress -/

/-- After a step's submission an operation holds the instance, and the answer was no
operation that had settled. -/
structure Progressed (journal : Journal) (instanceId : String) (answer : Except String Submission) :
    Prop where
  active : journal.hasInflightOp instanceId = true
  unsettled : ∀ original, answer = .ok (.replay original) → original.state.isInFlight = true

/-- Whatever is bound to a key is still in flight, on the instance the key is about. -/
def Unspent (journal : Journal) (key instanceId : String) : Prop :=
  ∀ original, journal.findOpByIdempotencyKey key = some original →
    original.state.isInFlight = true ∧ original.instanceId = instanceId

section Progress

variable {journal next : Journal} {args : SubmitArgs} {nowMs : Int}

theorem hasInflightOp_of_active {op : OperationRow} (member : op ∈ journal.operations.rows)
    (active : op.executorActive = true) : journal.hasInflightOp op.instanceId = true := by
  by_contra idle
  have inactive := hasInflightOp_false (Bool.eq_false_iff.mpr idle) op member rfl
  rw [active] at inactive
  cases inactive

theorem progressed_journaled {recorded : InstanceState}
    (submitted : journal.submitAtomically args nowMs = .ok (.journaled recorded, next)) :
    Progressed next args.instanceId (.ok (.journaled recorded)) ∧
      Unspent journal args.idempotencyKey args.instanceId := by
  obtain ⟨-, -, appended, -⟩ := Journal.submitAtomically_journaled submitted
  have member : Journal.newOperation args ∈ next.operations.rows := by simp [appended]
  refine ⟨⟨hasInflightOp_of_active member rfl, by rintro _ ⟨⟩⟩, ?_⟩
  intro original bound
  simp [Journal.submitAtomically, bound] at submitted

theorem progressed_replay {original : OperationRow} (owned : Ownership journal)
    (submitted : journal.submitAtomically args nowMs = .ok (.replay original, next))
    (same : original.instanceId = args.instanceId) :
    Progressed next args.instanceId (.ok (.replay original)) ↔
      Unspent journal args.idempotencyKey args.instanceId := by
  have bound : journal.findOpByIdempotencyKey args.idempotencyKey = some original := by
    rcases Journal.submitAtomically_cases submitted with
      ⟨-, ⟨_, shape, bound⟩ | ⟨-, ⟨shape, -⟩ | ⟨_, shape, -⟩ | shape⟩⟩ | ⟨_, _, shape, -⟩
    · cases shape
      exact bound
    all_goals cases shape
  have unchanged : next = journal := Journal.submitAtomically_refused submitted nofun
  subst unchanged
  constructor
  · intro progressed other otherBound
    rw [bound] at otherBound
    cases otherBound
    exact ⟨progressed.unsettled original rfl, same⟩
  · intro unspent
    obtain ⟨inFlight, -⟩ := unspent original bound
    have member := (Table.mem_of_find? bound).1
    have active := hasInflightOp_of_active member (owned.inFlight_active original member inFlight)
    rw [same] at active
    refine ⟨active, fun other shape => ?_⟩
    cases shape
    exact inFlight

/-- A destroy of an unclaimed instance that is there makes progress exactly when its key is
unspent: an unbound key is journaled, and any other is answered without a write. -/
theorem progressed_destroy {agent : Agent} {instanceId key opId guestToken : String}
    {keepSnapshots : Bool} {createdAtMs : Int} {submission : Submission} {state : InstanceState}
    (owned : Ownership journal)
    (submitted : journal.submitAtomically (submitArgs agent .destroy instanceId key
      (.destroy keepSnapshots) none opId guestToken createdAtMs) nowMs = .ok (submission, next))
    (idle : journal.hasInflightOp instanceId = false)
    (there : journal.stateOf instanceId = some state) (undestroyed : state ≠ .destroyed) :
    Progressed next instanceId (.ok submission) ↔ Unspent journal key instanceId := by
  obtain ⟨row, found, rfl⟩ := Option.map_eq_some_iff.mp there
  have planned : journal.plannedState (submitArgs agent .destroy instanceId key
      (.destroy keepSnapshots) none opId guestToken createdAtMs) = .ok .destroying := by
    have legal : row.state.canTransition .destroying = true := by
      simpa [InstanceState.canTransition] using undestroyed
    have plan : planTransition .destroy .destroying row.state = some .destroying := by
      simp [planTransition, legal]
    simp only [Journal.plannedState, submitArgs, createSpec, found, OpKind.states, plan]
  cases bound : journal.findOpByIdempotencyKey key with
  | some original =>
    have replayed : journal.submitAtomically (submitArgs agent .destroy instanceId key
        (.destroy keepSnapshots) none opId guestToken createdAtMs) nowMs =
          .ok (.replay original, journal) := by
      simp only [Journal.submitAtomically, submitArgs, bound]
    rw [replayed] at submitted
    cases submitted
    constructor
    · intro progressed
      have active := progressed.active
      rw [idle] at active
      cases active
    · intro unspent
      exact (progressed_replay owned replayed (unspent original bound).2).mpr unspent
  | none =>
    have written : journal.recordSubmission (submitArgs agent .destroy instanceId key
        (.destroy keepSnapshots) none opId guestToken createdAtMs) .destroying nowMs =
          .ok (submission, next) := by
      unfold Journal.submitAtomically at submitted
      rw [show (submitArgs agent .destroy instanceId key (.destroy keepSnapshots) none opId
        guestToken createdAtMs).idempotencyKey = key from rfl, bound, planned] at submitted
      simpa [submitArgs, idle] using submitted
    have shape := (Journal.recordSubmission_cases written).1
    subst shape
    obtain ⟨progressed, unspent⟩ := progressed_journaled submitted
    exact iff_of_true progressed unspent

end Progress

/-! ### The two steps -/

theorem deleteKey_keyed (name : String) (epoch : Nat) (instanceId : String) :
    deleteKey name epoch instanceId ≠ "" := by
  intro empty
  unfold deleteKey at empty
  simp only [String.append_eq_empty_iff] at empty
  exact absurd empty.1.1.1.1.1 (by decide)

/-- The key of a step is that of the verb it chose by what it read of its instance. -/
def KeyedByVerb (name : String) (spec : InstanceSpec) (epoch : Nat) (coldBoot : Bool)
    (trace : NodeTrace) (key : String) : Prop :=
  ∃ known kind payload verb, ⟨.journal (.getInstance spec.instanceId), known⟩ ∈ trace ∧
    materialiseVerb spec coldBoot (known.toOption.join.map InstanceRow.state) =
      some (kind, payload, verb) ∧
    key = materialiseKey verb name epoch spec.instanceId

/-- A step that reports an advance has had a submission about its instance accepted. -/
theorem materialise_submits {agent : Agent} {name : String} {spec : InstanceSpec} {epoch : Nat}
    {coldBoot : Bool} {trace : NodeTrace}
    (ran : Ran (materialise agent name spec epoch coldBoot) trace true) :
    ∃ args answer, ⟨.journal (.submitAtomically args), answer⟩ ∈ trace ∧
      args.instanceId = spec.instanceId ∧
      KeyedByVerb name spec epoch coldBoot trace args.idempotencyKey ∧
      ((∃ recorded, answer = .ok (.journaled recorded)) ∨
        ∃ original, answer = .ok (.replay original) ∧ original.instanceId = spec.instanceId) := by
  obtain ⟨known, afterRead, rfl, chosen⟩ := ran_step ran
  rw [Prog.pure_bind] at chosen
  split at chosen
  · cases (ran_pure chosen).2
  · next kind payload verb chose =>
    obtain ⟨submitting, value, reporting, rfl, submitted, reported⟩ := ran_bind chosen
    cases value with
    | error refusal => cases (ran_pure reported).2
    | ok op =>
      obtain ⟨args, answer, member, instanceId, keyed, accepted⟩ := submit_ok submitted
      exact ⟨args, answer, List.mem_cons_of_mem _ (List.mem_append_left _ member), instanceId,
        ⟨known, kind, payload, verb, List.mem_cons_self, chose, keyed⟩, accepted⟩

theorem releaseIntent_destroy {desired fencing : Bool} {instance_ : Option InstanceState}
    (destroys : releaseIntent desired fencing instance_ = .destroy) :
    ∃ state, instance_ = some state ∧ state ≠ .destroyed := by
  unfold releaseIntent at destroys
  split at destroys
  · cases destroys
  · split at destroys
    · cases destroys
    · cases destroys
    · next state undestroyed => exact ⟨state, rfl, undestroyed⟩

theorem sweepOne_submits {agent : Agent} {desired : List String} {name : String} {held : Held}
    {report final : PassReport} {trace : NodeTrace} {row : InstanceRow}
    (ran : Ran (sweepOne agent desired name held report)
      (⟨.journal (.getInstance held.lease.instanceId), .ok (some row)⟩ :: trace) final)
    (destroys : releaseIntent (name ∈ desired) false (some row.state) = .destroy) :
    ∃ opId guestToken createdAtMs answer, ⟨.journal (.submitAtomically (submitArgs agent .destroy
      held.lease.instanceId (deleteKey name held.lease.epoch held.lease.instanceId)
      (.destroy false) none opId guestToken createdAtMs)), answer⟩ ∈ trace := by
  unfold sweepOne at ran
  obtain ⟨reading, state, sweeping, split, read, swept⟩ := ran_bind ran
  unfold journalState at read
  split at read
  · -- A lease that names no instance is released or kept, without a look at the journal.
    obtain ⟨rfl, rfl⟩ := ran_pure read
    rw [List.nil_append] at split
    subst split
    simp only [releaseIntent] at swept
    split at swept
    · cases (ran_pure swept).1
    · next impossible => split at impossible <;> cases impossible
    · obtain ⟨_, _, clash, -⟩ := ran_step swept
      cases clash
  · obtain ⟨answer, afterRead, rfl, returned⟩ := ran_step read
    rw [List.cons_append] at split
    injection split with same rest
    cases same
    obtain ⟨rfl, rfl⟩ := ran_pure returned
    simp only [Option.map_some, destroys] at swept
    obtain ⟨submitting, value, reporting, rfl, submitted, -⟩ := ran_bind swept
    obtain ⟨opId, guestToken, createdAtMs, answer, member⟩ :=
      submit_destroy submitted (deleteKey_keyed _ _ _)
    rw [rest]
    exact ⟨opId, guestToken, createdAtMs, answer, List.mem_append_right _
      (List.mem_append_left _ member)⟩

/-- **Fleet steps make progress exactly when their key is unspent.** In every reachable state:
a `materialise` that reports an advance has had a submission about its instance answered, under the
key of the verb it chose, the name, the epoch and the instance, and
where that answer was given in this state, an operation holds the instance afterwards and none
that had settled was replayed, exactly if the key was unspent. So for the destroy that a sweep
submits of an instance nothing holds, unless the journal failed to answer. -/
theorem fleet_steps_progress_iff {agent : Agent} {etags : LeaseVersioning}
    {labels : List Label} {system : System}
    (reached : System.reach agent etags labels = some system) :
    (∀ name spec epoch coldBoot trace, Ran (materialise agent name spec epoch coldBoot) trace true →
      ∃ args answer, ⟨.journal (.submitAtomically args), answer⟩ ∈ trace ∧
        args.instanceId = spec.instanceId ∧
        KeyedByVerb name spec epoch coldBoot trace args.idempotencyKey ∧
        ∀ index choice after, (nodeMachine etags).exec index (.journal (.submitAtomically args))
            choice system.world = some (answer, after) →
              (Progressed after.journal spec.instanceId answer ↔
            Unspent system.world.journal args.idempotencyKey spec.instanceId)) ∧
    (∀ (desired : List String) name (held : Held) report final row trace,
      Ran (sweepOne agent desired name held report)
        (⟨.journal (.getInstance held.lease.instanceId), .ok (some row)⟩ :: trace) final →
      releaseIntent (name ∈ desired) false (some row.state) = .destroy →
      ∃ args answer, ⟨.journal (.submitAtomically args), answer⟩ ∈ trace ∧
        args.instanceId = held.lease.instanceId ∧
        args.idempotencyKey = deleteKey name held.lease.epoch held.lease.instanceId ∧
        (releaseIntent (name ∈ desired) false (system.world.journal.stateOf held.lease.instanceId) =
          .destroy → system.world.journal.hasInflightOp held.lease.instanceId = false →
          ∀ index choice after, (nodeMachine etags).exec index
              (.journal (.submitAtomically args)) choice system.world = some (answer, after) →
            (Progressed after.journal held.lease.instanceId answer ↔
              (∃ submission, answer = .ok submission) ∧
                Unspent system.world.journal args.idempotencyKey held.lease.instanceId))) := by
  have owned : Ownership system.world.journal := (reach_conduct reached).inv.1.owned
  constructor
  · intro name spec epoch coldBoot trace ran
    obtain ⟨args, answer, member, instanceId, keyed, accepted⟩ := materialise_submits ran
    refine ⟨args, answer, member, instanceId, keyed, fun index choice after executed => ?_⟩
    rcases query_cases executed with ⟨cause, failed, -⟩ | ⟨submission, journal, rfl, submitted, rfl⟩
    · rcases accepted with ⟨_, shape⟩ | ⟨_, shape, -⟩
      all_goals
        rw [failed] at shape
        cases shape
    · rw [← instanceId]
      rcases accepted with ⟨recorded, shape⟩ | ⟨original, shape, same⟩
      · cases shape
        obtain ⟨progressed, unspent⟩ := progressed_journaled submitted
        exact iff_of_true progressed unspent
      · cases shape
        exact progressed_replay owned submitted (same.trans instanceId.symm)
  · intro desired name held report final row trace ran destroys
    obtain ⟨opId, guestToken, createdAtMs, answer, member⟩ := sweepOne_submits ran destroys
    refine ⟨_, answer, member, rfl, rfl, fun stillDestroys idle index choice after executed => ?_⟩
    obtain ⟨state, there, undestroyed⟩ := releaseIntent_destroy stillDestroys
    rcases query_cases executed with ⟨cause, rfl, rfl⟩ | ⟨submission, journal, rfl, submitted, rfl⟩
    · refine iff_of_false (fun progressed => ?_) ?_
      · have active := progressed.active
        rw [idle] at active
        cases active
      · rintro ⟨⟨_, answered⟩, -⟩
        cases answered
    · rw [progressed_destroy owned submitted idle there undestroyed]
      exact (and_iff_right ⟨submission, rfl⟩).symm

def System.stoppedSession : List Label :=
  startedSession ++ ask (.stopInstance "stop" ulid 5) :: drive 5 0 107 5 ++ .launch 0 ::
    drive 6 0 112 20

/-- The spec of the instance, as node `n1` decodes it. -/
def plainSpec : InstanceSpec := .pinned ulid 0

def startArgs (epoch : Nat) : SubmitArgs :=
  submitArgs .plain .start ulid (materialiseKey "start" "s" epoch ulid) .start none "op" "" 0

/-- What `materialise` says and hears about a stopped instance whose start the journal answers
with `submission`. -/
def startTrace (epoch : Nat) (row : InstanceRow) (submission : Submission) :
    NodeTrace :=
  [⟨.journal (.getInstance ulid), .ok (some row)⟩, ⟨.ulid, "op"⟩, ⟨.now, (0 : Int)⟩,
    ⟨.journal (.submitAtomically (startArgs epoch)), .ok submission⟩]

theorem materialise_journaled {epoch : Nat} {row : InstanceRow} (stopped : row.state = .stopped) :
    ∃ rest, Ran (materialise .plain "s" plainSpec epoch false)
      (startTrace epoch row (.journaled .starting) ++ rest) true := by
  refine ⟨[⟨.journal (.insertEvent { Events.event .stateChanged ulid "op" "" with
      state := .starting }), .ok ()⟩,
    ⟨.spawn ⟨.start, Journal.newOperation (startArgs epoch), .start, .starting⟩, ()⟩], .step ?_⟩
  rw [Prog.pure_bind]
  simp only [Except.toOption, Option.join_some, Option.map_some, stopped, materialiseVerb]
  exact .step (.step (.step (.step (.step (.refl _)))))

/-- At the next epoch the stopped session's start has a key of its own. -/
theorem fleet_steps_progress_next_epoch : ∃ system row trace,
      System.reach .plain freshVersions System.stoppedSession = some system ∧
      Ran (materialise .plain "s" plainSpec 2 false)
      (startTrace 2 row (.journaled .starting) ++ trace) true ∧
      ∃ args answer, ⟨.journal (.submitAtomically args), answer⟩ ∈
          startTrace 2 row (.journaled .starting) ++ trace ∧ args.instanceId = ulid ∧
        KeyedByVerb "s" plainSpec 2 false (startTrace 2 row (.journaled .starting) ++ trace)
          args.idempotencyKey ∧
        ∀ index choice after, (nodeMachine freshVersions).exec index
            (.journal (.submitAtomically args)) choice system.world = some (answer, after) →
          (Progressed after.journal ulid answer ↔
            Unspent system.world.journal args.idempotencyKey ulid) := by
  have run : ((System.reach .plain freshVersions System.stoppedSession).any fun system =>
      (system.world.journal.getInstance ulid).any fun row => row.state = .stopped) = true := by
    decide +kernel
  obtain ⟨system, row, reached, -, stopped⟩ := exists_found_of_any run
  obtain ⟨trace, ran⟩ := materialise_journaled stopped
  exact ⟨system, row, trace, reached, ran, (fleet_steps_progress_iff reached).1 "s" plainSpec
    2 false _ ran⟩

theorem materialise_replayed {epoch : Nat} {row : InstanceRow} {original : OperationRow}
    (stopped : row.state = .stopped) (kind : original.kind = .start)
    (instanceId : original.instanceId = ulid) (payload : original.payload = "") :
    Ran (materialise .plain "s" plainSpec epoch false)
    (startTrace epoch row (.replay original)) true := by
  have replayed : checkReplay .start ulid .start original = .pure (.ok (.submitted original)) := by
    have same : ¬(original.kind ≠ .start ∨ original.instanceId ≠ ulid ∨
        original.payload ≠ payloadDescriptor .start) := by
      rw [kind, instanceId, payload]
      decide
    unfold checkReplay
    rw [if_neg same]
    rfl
  refine .step ?_
  rw [Prog.pure_bind]
  simp only [Except.toOption, Option.join_some, Option.map_some, stopped, materialiseVerb]
  refine .step (.step (.step ?_))
  simp only [Prog.pure_bind]
  exact replayed ▸ .refl _

/-- A session started, stopped by a client and to be started again at the same epoch: the step
reports an advance, and is answered with the start that is done. -/
theorem stopped_session_not_restarted : ∃ system row original after,
      System.reach .plain freshVersions System.stoppedSession = some system ∧
      system.world.journal.getInstance ulid = some row ∧
      Ran (materialise .plain "s" plainSpec 1 false) (startTrace 1 row (.replay original)) true ∧
      (nodeMachine freshVersions).exec 7 (.journal (.submitAtomically (startArgs 1))) (.calm 0 132)
        system.world = some (.ok (.replay original), after) ∧
      original.state = .done ∧ after.journal.hasInflightOp ulid = false ∧
      after.journal.stateOf ulid = some .stopped := by
  have run : ((System.reach .plain freshVersions System.stoppedSession).any fun system =>
      (system.world.journal.getInstance ulid).any (fun row => row.state = .stopped) ∧
      system.world.journal.hasInflightOp ulid = false ∧
      (system.world.journal.findOpByIdempotencyKey (materialiseKey "start" "s" 1 ulid)).any
        fun original => original.state = .done ∧ original.kind = .start ∧
          original.instanceId = ulid ∧ original.payload = "") = true := by decide +kernel
  obtain ⟨system, reached, there, idle, bound⟩ := exists_of_any run
  obtain ⟨row, found, stopped⟩ := (Option.any_eq_true _ _).mp there
  obtain ⟨original, bound, done, kind, instanceId, payload⟩ := exists_of_any bound
  have isStopped : row.state = .stopped := of_decide_eq_true stopped
  have answered : (Query.submitAtomically (startArgs 1)).run 0 system.world.journal =
      .ok (.replay original, system.world.journal) := by
    show system.world.journal.submitAtomically (startArgs 1) 0 = _
    unfold Journal.submitAtomically
    rw [show (startArgs 1).idempotencyKey = materialiseKey "start" "s" 1 ulid from rfl, bound]
  have executed : (nodeMachine freshVersions).exec 7 (.journal (.submitAtomically (startArgs 1)))
      (.calm 0 132) system.world = some (.ok (.replay original), system.world) := by
    simp only [nodeMachine, World.exec, World.query, Choice.calm, answered, Auxiliary.query]
  refine ⟨system, row, original, system.world, reached, found,
    materialise_replayed isStopped kind instanceId payload, executed, done, idle, ?_⟩
  rw [Journal.stateOf, found, Option.map_some, isStopped]

end Barista.Node
