import Barista.Node.Sections
import Barista.Node.System

/-!
Contract: what every task of the node keeps to, in every run.

An operation is handed from the task that submitted it to the task that executes it, and
its claim on the instance stands until that task finalizes it. The map of held leases and
the lease records change only under `lease_writes`, and whenever the lock is free the map
is what the bucket last acknowledged to this node. Nothing here assumes anything of the
bucket, the journal or the scheduler.

Owns: the discipline, its facts about single actions, and its coverage of every reachable
state.
-/

namespace Barista.Node

open Foundation Fleet

/-! ### Operations in charge -/

/-- The instance an executor works on reads as its submission recorded it, unless it was failed
behind the executor's back. A create's instance may have no row of its own. -/
def AsRecorded (journal : Journal) (executor : Executor) : Prop :=
  match journal.stateOf executor.op.instanceId with
  | some state => state = executor.recorded ∨ state = .failed
  | none => executor.recorded = .creating

/-- The operation an executor was given is journaled, under the text of its payload, and still
claims its instance, which reads as it was recorded. -/
structure Claimed (journal : Journal) (executor : Executor) : Prop where
  journaled : ∃ op ∈ journal.operations.rows, op.opId = executor.op.opId ∧
    op.instanceId = executor.op.instanceId ∧ op.kind = executor.kind ∧ op.executorActive = true
  recorded : AsRecorded journal executor
  described : ∃ op ∈ journal.operations.rows, op.opId = executor.op.opId ∧
    op.payload = payloadDescriptor executor.payload

/-- An executor's kind is its payload's, and it was recorded where the plan put it. -/
def Planned (executor : Executor) : Prop :=
  executor.kind = executor.payload.kind ∧
    (executor.recorded = executor.kind.states.1 ∨
      ∃ source, planTransition executor.kind executor.kind.states.1 source = some executor.recorded)

def NoneActive (journal : Journal) : Prop :=
  ∀ op ∈ journal.operations.rows, op.executorActive = false

/-- The task at `index` executes this operation and has not finalized it. -/
structure Executing (index : Nat) (executor : Executor) (world : World) : Prop where
  planned : Planned executor
  claimed : Claimed world.journal executor
  charge : world.aux.charge executor.op.opId = some (.executor index)
  noted : world.aux.recorded executor.op.opId = some executor.recorded

/-- The task at `index` journaled this operation and has not handed it over. -/
structure Submitting (index : Nat) (executor : Executor) (world : World) : Prop where
  planned : Planned executor
  claimed : Claimed world.journal executor
  charge : world.aux.charge executor.op.opId = some (.submitter index)
  noted : world.aux.recorded executor.op.opId = some executor.recorded

structure Claims (world : World) : Prop where
  owned : Ownership world.journal
  unparked : ∀ op ∈ world.journal.operations.rows, op.state ≠ .awaitingInput
  queued : ∀ executor ∈ world.spawned, Planned executor ∧ Claimed world.journal executor ∧
    world.aux.charge executor.op.opId = some .queue ∧
    world.aux.recorded executor.op.opId = some executor.recorded
  distinct : (world.spawned.map fun executor => executor.op.opId).Nodup

/-! ### Leases in hand -/

/-- The map of held leases is what the bucket last acknowledged. A lease given back at once is
acknowledged and not held; its record says no run state. -/
structure Synced (held : Std.TreeMap String Held) (acked : String → Option Held) : Prop where
  known : ∀ (name : String) lease, held[name]? = some lease → acked name = some lease
  noted : ∀ (name : String) lease, acked name = some lease →
    held[name]? = some lease ∨ lease.lease.state = none

structure Leases (agent : Agent) (world : World) : Prop where
  held : ∀ (name : String) lease, world.held[name]? = some lease → Owned agent lease
  acked : ∀ (name : String) lease, world.aux.acked name = some lease → Owned agent lease
  synced : world.writing = none → Synced world.held world.aux.acked
  outside : world.stage ≠ .joined → ∀ name, world.aux.acked name = none
  down : world.stage = .down → world.writing = none ∧ world.ticking = none ∧
    ∀ opId, world.aux.charge opId = none

/-! ### What tasks rely on and guarantee -/

/-- What a task of the node may count on while others run. -/
structure Relied (index : Nat) (before after : World) : Prop where
  claims : ∀ executor, (before.aux.charge executor.op.opId = some (.submitter index) ∨
      before.aux.charge executor.op.opId = some (.executor index)) →
    Claimed before.journal executor → Claimed after.journal executor ∧
      after.aux.charge executor.op.opId = before.aux.charge executor.op.opId ∧
      after.aux.recorded executor.op.opId = before.aux.recorded executor.op.opId
  lock : before.writing = some index → after.writing = some index ∧ after.held = before.held ∧
    after.aux.acked = before.aux.acked
  tick : before.ticking = some index → after.ticking = some index ∧ after.stage = before.stage ∧
    ∀ name : String, before.held[name]? = none → after.held[name]? = none
  stage : before.stage ≠ .booting → after.stage = before.stage
  up : before.stage ≠ .down → after.stage ≠ .down
  reading : after.aux.reading index = before.aux.reading index
  idle : before.ticking = some index → before.stage = .booting → NoneActive before.journal →
    NoneActive after.journal ∧ ∀ id, after.journal.stateOf id = before.journal.stateOf id

structure Kept (index : Nat) (before after : World) : Prop where
  claims : ∀ executor, Claimed before.journal executor →
    (Claimed after.journal executor ∨
      before.aux.charge executor.op.opId = some (.executor index)) ∧
    (after.aux.charge executor.op.opId = before.aux.charge executor.op.opId ∨
      before.aux.charge executor.op.opId = some (.submitter index)) ∧
    after.aux.recorded executor.op.opId = before.aux.recorded executor.op.opId
  lock : before.writing ≠ some index → (after.writing = before.writing ∨ before.writing = none) ∧
    after.held = before.held ∧ after.aux.acked = before.aux.acked
  tick : before.ticking ≠ some index → (after.ticking = before.ticking ∨ before.ticking = none) ∧
    after.stage = before.stage ∧
    (∀ name : String, before.held[name]? = none → after.held[name]? = none) ∧
    (before.stage = .booting → NoneActive before.journal →
      NoneActive after.journal ∧ ∀ id, after.journal.stateOf id = before.journal.stateOf id)
  stage : before.stage ≠ .booting → after.stage = before.stage
  up : before.stage ≠ .down → after.stage ≠ .down
  reading : ∀ other, other ≠ index → after.aux.reading other = before.aux.reading other

/-! ### Facts about single actions -/

def PutFact (agent : Agent) (index : Nat) (world : World) (origin : Origin) (name : String)
    (body : Lease) (mode : PutMode UpdateVersion) : Prop :=
  match origin with
  | .peer => body.owner ≠ agent.nodeId
  | .renew held | .stampState held =>
    world.held[name]? = some held ∧ world.aux.acked name = some held ∧
      mode = .update held.version ∧
      body = { held.lease with expiresMs := body.expiresMs, state := body.state } ∧
      (body.state = some "running" →
        world.aux.reading index = some (body.instanceId, true))
  | .setInstance held => mode = .update held.version ∧
      body = { held.lease with instanceId := body.instanceId } ∧ Synced world.held world.aux.acked
  | .release held => mode = .update held.version ∧
      body = { held.lease with expiresMs := 0 } ∧ Synced world.held world.aux.acked
  | .giveBack held => mode = .update held.version ∧ body = { held.lease with expiresMs := 0 } ∧
      body.state = none ∧ world.aux.acked name = some held
  | .acquire => body.state = none
  | .resolve => False

/-- What is true of the state in which a task performs an action. -/
def Fact (agent : Agent) (index : Nat) (role : Role) (world : World) : NodeAct → Prop
  | .bucket origin (.put name body mode) =>
    PutFact agent index world origin name body mode ∧ (origin ≠ .peer →
      world.writing = some index ∧ world.stage = .joined ∧ body.owner = agent.nodeId ∧
        ((∃ held, origin = .stampState held) ∨ role = .tick))
  | .journal (.finishOperation args) =>
    ∃ executor, role = .executor executor ∧ Executing index executor world ∧
      args.opId = executor.op.opId ∧ args.instanceId = executor.op.instanceId ∧
      args.state = settledState executor.kind executor.recorded args.outcome ∧
      (args.ttlDeadlineMs.isSome = true → args.state = .running) ∧
      (args.clearReady = true ∨ args.state = .running)
  | .journal .issueExecutionEpoch =>
    ∃ executor, role = .executor executor ∧ Executing index executor world
  | .journal (.setInstanceEpoch id _) =>
    ∃ executor, role = .executor executor ∧ Executing index executor world ∧
      id = executor.op.instanceId
  | .journal (.setInstanceState id state) =>
    (role = .tick ∧ state = .failed ∧ world.ticking = some index) ∨
      (role.isBoot = true ∧ world.stage = .booting ∧ NoneActive world.journal ∧
        ∃ source, world.journal.stateOf id = some source ∧ source.isTransitional = true ∧
          source.canTransition state = true)
  | .journal (.submitAtomically args) =>
    args.transitional = args.kind.states.1 ∧
      args.plan = planTransition args.kind args.kind.states.1
  | .journal query => query.isLeaseRow = true → world.ticking = some index
  | .runtime _ => ∀ executor, role = .executor executor → Executing index executor world
  | .hold name held => world.writing = some index ∧ world.aux.acked name = some held
  | .forget _ => world.writing = some index ∧ world.ticking = some index
  | .spawn executor => Submitting index executor world
  | _ => True

def conduct (agent : Agent) (etags : LeaseVersioning) :
    Discipline (nodeMachine etags) Role Unit where
  Inv world := Claims world ∧ Leases agent world
  Rely index role before after := role.isPeer = false → Relied index before after
  Assume _ _ _ _ _ _ := True
  Guar index role act _ before after := Kept index before after ∧ Fact agent index role before act
  Post _ _ _ _ := True
  rely_refl index role world := fun _ =>
    ⟨fun _ _ claimed => ⟨claimed, rfl, rfl⟩, fun locked => ⟨locked, rfl, rfl⟩,
      fun ticking => ⟨ticking, rfl, fun _ => id⟩, fun _ => rfl, id, rfl,
      fun _ _ idle => ⟨idle, fun _ => rfl⟩⟩
  rely_trans := by
    intro index role first second third earlier later own
    have earlier := earlier own
    have later := later own
    refine ⟨fun executor charge claimed => ?_, fun locked => ?_, fun ticking => ?_, fun stage => ?_,
      fun up => later.up (earlier.up up), later.reading.trans earlier.reading,
      fun ticking stage idle => ?_⟩
    · obtain ⟨claimed, same, noted⟩ := earlier.claims executor charge claimed
      obtain ⟨claimed, same', noted'⟩ := later.claims executor (same ▸ charge) claimed
      exact ⟨claimed, same'.trans same, noted'.trans noted⟩
    · obtain ⟨locked, held, acked⟩ := earlier.lock locked
      obtain ⟨locked, held', acked'⟩ := later.lock locked
      exact ⟨locked, held'.trans held, acked'.trans acked⟩
    · obtain ⟨ticking, stage, domain⟩ := earlier.tick ticking
      obtain ⟨ticking, stage', domain'⟩ := later.tick ticking
      exact ⟨ticking, stage'.trans stage, fun name absent => domain' name (domain name absent)⟩
    · have same := earlier.stage stage
      exact (later.stage (same ▸ stage)).trans same
    · obtain ⟨ticks, same, -⟩ := earlier.tick ticking
      obtain ⟨idle, states⟩ := earlier.idle ticking stage idle
      obtain ⟨idle, states'⟩ := later.idle ticks (same.trans stage) idle
      exact ⟨idle, fun id => (states' id).trans (states id)⟩
  guar_rely := by
    rintro actor role act answer other otherRole before after different - - ⟨kept, -⟩ -
    refine ⟨fun executor charge claimed => ?_, fun locked => ?_, fun ticking => ?_, kept.stage,
      kept.up, kept.reading other (Ne.symm different), fun ticking stage idle => ?_⟩
    · obtain ⟨stands, charged, noted⟩ := kept.claims executor claimed
      have otherIndex : other ≠ actor := Ne.symm different
      refine ⟨stands.resolve_right ?_, charged.resolve_right ?_, noted⟩ <;>
        rcases charge with charge | charge <;> simp [charge, otherIndex]
    · obtain ⟨writing, held, acked⟩ := kept.lock (by simp [locked, Ne.symm different])
      exact ⟨by simpa [locked] using writing, held, acked⟩
    · obtain ⟨ticks, stage, domain, -⟩ := kept.tick (by simp [ticking, Ne.symm different])
      exact ⟨by simpa [ticking] using ticks, stage, domain⟩
    · exact (kept.tick (by simp [ticking, Ne.symm different])).2.2.2 stage idle

/-! ### Journals that evolve -/

section Evolves

variable {journal next : Journal} {yields adds : OperationRow → Prop} {executor : Executor}

/-- An instance is not moved, but it may be failed, and its row may appear. -/
def Unmoved (journal next : Journal) (id : String) : Prop :=
  next.stateOf id = journal.stateOf id ∨
    ((journal.stateOf id).isSome = true ∧ next.stateOf id = some .failed) ∨
    (journal.stateOf id = none ∧ next.stateOf id = some .creating)

theorem AsRecorded.unmoved (recorded : AsRecorded journal executor)
    (unmoved : Unmoved journal next executor.op.instanceId) : AsRecorded next executor := by
  unfold AsRecorded at recorded ⊢
  rcases unmoved with same | ⟨-, failed⟩ | ⟨absent, created⟩
  · rw [same]
    exact recorded
  · rw [failed]
    exact .inr rfl
  · rw [absent] at recorded
    rw [created]
    exact .inl recorded.symm

theorem Claimed.evolves (claimed : Claimed journal executor)
    (evolved : journal.Evolves next yields adds)
    (others : ∀ op, op.opId = executor.op.opId → ¬ yields op)
    (unmoved : Unmoved journal next executor.op.instanceId) : Claimed next executor := by
  obtain ⟨⟨op, member, opId, instanceId, kind, active⟩, recorded, described⟩ := claimed
  obtain ⟨described, describes, describedId, text⟩ := described
  obtain ⟨change, added, written, kept, -⟩ := evolved
  have stays {row : OperationRow} (listed : row ∈ journal.operations.rows) :
      change row ∈ next.operations.rows := by
    rw [written]
    exact List.mem_append_left _ (List.mem_map_of_mem listed)
  obtain ⟨step, stands⟩ := kept op member
  have describedStep := (kept described describes).1
  exact ⟨⟨change op, stays member, step.opId.trans opId, step.instanceId.trans instanceId,
    step.kind.trans kind, (stands active).resolve_right (others op opId)⟩,
    recorded.unmoved unmoved, change described, stays describes,
    describedStep.opId.trans describedId, describedStep.payload.trans text⟩

theorem Claimed.not_idle (claimed : Claimed journal executor) : ¬ NoneActive journal := by
  intro idle
  obtain ⟨op, member, -, -, -, active⟩ := claimed.journaled
  rw [idle op member] at active
  cases active

theorem NoneActive.evolves (idle : NoneActive journal) (evolved : journal.Evolves next yields adds)
    (noneAdded : ∀ op, ¬ adds op) : NoneActive next := by
  obtain ⟨change, added, written, kept, fresh⟩ := evolved
  intro op member
  rw [written, List.mem_append] at member
  rcases member with old | new
  · obtain ⟨source, sourceMember, rfl⟩ := List.mem_map.mp old
    have inactive := idle source sourceMember
    by_contra active
    rw [Bool.not_eq_false] at active
    rw [(kept source sourceMember).1.noneTaken active] at inactive
    cases inactive
  · exact absurd (fresh op new) (noneAdded op)

theorem unparked_evolves (unparked : ∀ op ∈ journal.operations.rows, op.state ≠ .awaitingInput)
    (evolved : journal.Evolves next yields adds)
    (added : ∀ op, adds op → op.state ≠ .awaitingInput) :
    ∀ op ∈ next.operations.rows, op.state ≠ .awaitingInput := by
  obtain ⟨change, more, written, kept, fresh⟩ := evolved
  intro op member
  rw [written, List.mem_append] at member
  rcases member with old | new
  · obtain ⟨source, sourceMember, rfl⟩ := List.mem_map.mp old
    exact fun parked => unparked source sourceMember
      ((kept source sourceMember).1.noneParked parked)
  · exact added op (fresh op new)

end Evolves

/-! ### Quiet steps -/

/-- A step that moves no claim, no lease, no lock and no stage. -/
structure Quiet (index : Nat) (before after : World) : Prop where
  operations : before.journal.Evolves after.journal (fun _ => False) fun _ => False
  claimed : ∀ executor, Claimed before.journal executor → Claimed after.journal executor
  unmoved : before.ticking ≠ some index → ∀ id, after.journal.stateOf id = before.journal.stateOf id
  owned : Ownership after.journal
  spawned : after.spawned = before.spawned
  charge : after.aux.charge = before.aux.charge
  noted : after.aux.recorded = before.aux.recorded
  acked : after.aux.acked = before.aux.acked
  reading : ∀ other, other ≠ index → after.aux.reading other = before.aux.reading other
  held : after.held = before.held
  writing : after.writing = before.writing
  ticking : after.ticking = before.ticking
  stage : after.stage = before.stage

namespace Quiet

variable {agent : Agent} {index : Nat} {before after : World}

theorem claims (quiet : Quiet index before after) (claims : Claims before) : Claims after where
  owned := quiet.owned
  unparked := unparked_evolves claims.unparked quiet.operations fun _ => False.elim
  queued := by
    intro executor member
    rw [quiet.spawned] at member
    obtain ⟨planned, claimed, charge, noted⟩ := claims.queued executor member
    exact ⟨planned, quiet.claimed executor claimed, by rw [quiet.charge, charge],
      by rw [quiet.noted, noted]⟩
  distinct := by
    rw [quiet.spawned]
    exact claims.distinct

theorem leases (quiet : Quiet index before after) (leases : Leases agent before) :
    Leases agent after := by
  constructor
  · rw [quiet.held]
    exact leases.held
  · rw [quiet.acked]
    exact leases.acked
  · rw [quiet.writing, quiet.held, quiet.acked]
    exact leases.synced
  · rw [quiet.stage, quiet.acked]
    exact leases.outside
  · rw [quiet.stage, quiet.writing, quiet.ticking, quiet.charge]
    exact leases.down

theorem kept (quiet : Quiet index before after) : Kept index before after where
  claims executor claimed :=
    ⟨.inl (quiet.claimed executor claimed), .inl (by rw [quiet.charge]), by rw [quiet.noted]⟩
  lock _ := ⟨.inl quiet.writing, quiet.held, quiet.acked⟩
  tick other := ⟨.inl quiet.ticking, quiet.stage, by rw [quiet.held]; exact fun _ => id,
    fun _ idle => ⟨idle.evolves quiet.operations fun _ => id, quiet.unmoved other⟩⟩
  stage _ := quiet.stage
  up up := by rwa [quiet.stage]
  reading := quiet.reading

theorem of_same (owned : Ownership before.journal) (journal : after.journal = before.journal)
    (spawned : after.spawned = before.spawned) (aux : after.aux = before.aux)
    (held : after.held = before.held) (writing : after.writing = before.writing)
    (ticking : after.ticking = before.ticking) (stage : after.stage = before.stage) :
    Quiet index before after :=
  ⟨.same (by rw [journal]), fun _ claimed => journal ▸ claimed, fun _ _ => by rw [journal],
    journal ▸ owned, spawned, by rw [aux], by rw [aux], by rw [aux], fun _ _ => by rw [aux], held,
    writing, ticking, stage⟩

end Quiet

section Acts

variable {agent : Agent} {etags : LeaseVersioning} {index : Nat}
  {choice : Choice} {before after : World}

theorem aux_query_loose (aux : Auxiliary) (index : Nat) {query : Query} (result : query.Answer)
    (other : ∀ args, query ≠ .submitAtomically args) : aux.query index query result = aux := by
  cases query with
  | submitAtomically args => exact absurd rfl (other args)
  | _ => rfl

/-- A query other than a submission or a finalize is quiet, if what it moves is no claimed
instance, and moved by the current tick. -/
theorem query_quiet {query : Query} {answer : Except String query.Answer} (claims : Claims before)
    (notSubmission : ∀ args, query ≠ .submitAtomically args)
    (notFinalize : ∀ args, query ≠ .finishOperation args)
    (unmoved : query.movesInstance = false ∨ (before.ticking = some index ∧
      ∀ executor, Claimed before.journal executor →
        Unmoved before.journal after.journal executor.op.instanceId))
    (executed : (nodeMachine etags).exec index (.journal query) choice before =
      some (answer, after)) : Quiet index before after := by
  rcases query_cases executed with ⟨cause, -, rfl⟩ | ⟨result, journal, -, ran, rfl⟩
  · exact .of_same claims.owned rfl rfl rfl rfl rfl rfl rfl
  · have evolved : before.journal.Evolves journal (fun _ => False) fun _ => False := by
      obtain ⟨change, added, written, kept, fresh⟩ := Query.run_operations ran
      refine ⟨change, added, written, fun op member => ⟨(kept op member).1, fun active =>
        .inl (((kept op member).2 active).resolve_right ?_)⟩, fun op member => ?_⟩
      · rintro (finished | parked)
        · cases query with
          | finishOperation args => exact notFinalize args rfl
          | _ => exact finished
        · exact claims.unparked op member parked
      · obtain ⟨args, isSubmission, -⟩ := fresh op member
        exact notSubmission args isSubmission
    have sameAux := aux_query_loose before.aux index result notSubmission
    refine ⟨evolved, fun executor claimed => claimed.evolves evolved (fun _ _ => id) ?_,
      fun other => ?_, Query.run_ownership claims.owned ran, rfl, by rw [sameAux], by rw [sameAux],
      by rw [sameAux], fun _ _ => by rw [sameAux], rfl, rfl, rfl, rfl⟩
    · rcases unmoved with still | ⟨-, spared⟩
      · exact .inl (Query.run_unmoved ran still _)
      · exact spared executor claimed
    · rcases unmoved with still | ⟨ticking, -⟩
      · exact Query.run_unmoved ran still
      · exact absurd ticking other

variable {act : NodeAct}

theorem loose_quiet {answer : NodeSig.Ans act} (claims : Claims before) (loose : act.isLoose = true)
    (executed : (nodeMachine etags).exec index act choice before = some (answer, after)) :
    Quiet index before after := by
  cases act with
  | bucket origin request =>
    cases request with
    | put name body mode => cases loose
    | get name =>
      obtain ⟨result, -, same⟩ := Option.map_eq_some_iff.mp executed
      cases same
      exact .of_same claims.owned rfl rfl rfl rfl rfl rfl rfl
  | journal query =>
    refine query_quiet claims ?_ ?_ (.inl ?_) executed
    · rintro args rfl
      cases loose
    · rintro args rfl
      cases loose
    · cases query <;> first | rfl | cases loose
  | runState | takeWrites | dropWrites | held | hold | forget | beginTick | endTick | join
  | spawn => cases loose
  | _ =>
    cases executed
    exact .of_same claims.owned rfl rfl rfl rfl rfl rfl rfl

theorem loose_unmoved {answer : NodeSig.Ans act} (loose : act.isLoose = true)
    (executed : (nodeMachine etags).exec index act choice before = some (answer, after))
    (id : String) : after.journal.stateOf id = before.journal.stateOf id := by
  by_cases isQuery : ∃ query, act = .journal query
  · obtain ⟨query, rfl⟩ := isQuery
    rcases query_cases executed with ⟨_, -, rfl⟩ | ⟨_, _, -, ran, rfl⟩
    · rfl
    · refine Query.run_unmoved ran ?_ id
      cases query <;> first | rfl | cases loose
  · rw [exec_journal executed fun query same => isQuery ⟨query, same⟩]

theorem loose_fact {role : Role} (loose : act.isLoose = true)
    (executing : act.isRuntime = true → ∀ executor, role = .executor executor →
      Executing index executor before) : Fact agent index role before act := by
  cases act with
  | bucket origin request =>
    cases request with
    | put name body mode => cases loose
    | get name => trivial
  | journal query =>
    cases query with
    | submitAtomically | finishOperation | setInstanceState | issueExecutionEpoch
    | setInstanceEpoch | holdLease | setLeaseInstance | markLeaseFencing | releaseLease =>
      cases loose
    | _ => exact nofun
  | runtime call => exact executing rfl
  | hold | forget | spawn => cases loose
  | _ => trivial

end Acts

/-! ### What each task knows of itself -/

/-- What a task of the node knows while it runs under a permit. -/
structure Stance (permit : Permit) (index : Nat) (role : Role) (world : World) : Prop where
  up : world.stage ≠ .down
  executing : permit.acts = true → ∀ executor, role = .executor executor →
    Executing index executor world
  submits : permit.submits = true → world.ticking = some index ∨ world.stage ≠ .booting
  ticks : permit.ticks = true → world.ticking = some index
  joined : permit.joined = true → world.stage = .joined
  boots : permit.boots = true → world.ticking = some index ∧ world.stage = .booting
  fails : permit.fails = true → role = .tick ∧ world.ticking = some index

section Stances

variable {agent : Agent} {etags : LeaseVersioning} {permit : Permit}
  {index : Nat} {role : Role} {before after : World}

variable {executor : Executor}

theorem Executing.relied (executing : Executing index executor before)
    (relied : Relied index before after) : Executing index executor after := by
  obtain ⟨claimed, same, noted⟩ := relied.claims executor (.inr executing.charge) executing.claimed
  exact ⟨executing.planned, claimed, same.trans executing.charge, noted.trans executing.noted⟩

theorem Submitting.relied (submitting : Submitting index executor before)
    (relied : Relied index before after) : Submitting index executor after := by
  obtain ⟨claimed, same, noted⟩ :=
    relied.claims executor (.inl submitting.charge) submitting.claimed
  exact ⟨submitting.planned, claimed, same.trans submitting.charge, noted.trans submitting.noted⟩

theorem Stance.relied (stance : Stance permit index role before)
    (relied : Relied index before after) : Stance permit index role after where
  up := relied.up stance.up
  executing may executor isExecutor := (stance.executing may executor isExecutor).relied relied
  submits may := by
    rcases stance.submits may with ticking | stage
    · exact .inl (relied.tick ticking).1
    · exact .inr (by rwa [relied.stage stage])
  ticks may := (relied.tick (stance.ticks may)).1
  joined may := by
    have joined := stance.joined may
    rw [relied.stage (by rw [joined]; decide), joined]
  boots may := by
    obtain ⟨ticking, booting⟩ := stance.boots may
    obtain ⟨still, stage, -⟩ := relied.tick ticking
    exact ⟨still, stage.trans booting⟩
  fails may := ⟨(stance.fails may).1, (relied.tick (stance.fails may).2).1⟩

theorem Executing.quiet (executing : Executing index executor before)
    (quiet : Quiet index before after) : Executing index executor after :=
  ⟨executing.planned, quiet.claimed executor executing.claimed,
    by rw [quiet.charge, executing.charge], by rw [quiet.noted, executing.noted]⟩

theorem Submitting.quiet (submitting : Submitting index executor before)
    (quiet : Quiet index before after) : Submitting index executor after :=
  ⟨submitting.planned, quiet.claimed executor submitting.claimed,
    by rw [quiet.charge, submitting.charge], by rw [quiet.noted, submitting.noted]⟩

theorem Stance.quiet (stance : Stance permit index role before) (quiet : Quiet index before after) :
    Stance permit index role after where
  up := by rw [quiet.stage]; exact stance.up
  executing may executor isExecutor := (stance.executing may executor isExecutor).quiet quiet
  submits may := by
    rw [quiet.ticking, quiet.stage]
    exact stance.submits may
  ticks may := by rw [quiet.ticking]; exact stance.ticks may
  joined may := by rw [quiet.stage]; exact stance.joined may
  boots may := by rw [quiet.ticking, quiet.stage]; exact stance.boots may
  fails may := by rw [quiet.ticking]; exact stance.fails may

/-- Assertions that hold through other tasks' steps and through this task's quiet ones. -/
structure Steady (index : Nat) (role : Role) (A : World → Prop) : Prop where
  own : role.isPeer = false
  relied : ∀ {before after}, Relied index before after → A before → A after
  quiet : ∀ {before after}, Quiet index before after → A before → A after

/-- Steady assertions under which the runtime may be called. -/
structure Acting (index : Nat) (role : Role) (A : World → Prop) : Prop
    extends Steady index role A where
  executing : ∀ {world} executor, role = .executor executor → A world →
    Executing index executor world

variable {A : World → Prop}

theorem Steady.stable (steady : Steady index role A) : (conduct agent etags).Stable index role A :=
  fun _ _ relied _ holds => steady.relied (relied steady.own) holds

theorem steady_stance (own : role.isPeer = false) : Steady index role (Stance permit index role) :=
  ⟨own, fun relied stance => stance.relied relied, fun quiet stance => stance.quiet quiet⟩

theorem acting_stance (own : role.isPeer = false) (acts : permit.acts = true) :
    Acting index role (Stance permit index role) :=
  ⟨steady_stance own, fun executor isExecutor stance => stance.executing acts executor isExecutor⟩

theorem wp_loose (acting : Acting index role A) {α : Type} {program : NodeProg α}
    (loose : Loose program) {world : World} (holds : A world) :
    (conduct agent etags).wp index role program (fun _ => A) world := by
  refine Discipline.wp_emits acting.stable ?_ loose holds
  rintro act isLoose current choice answer after kept ⟨claims, leases⟩ executed -
  have quiet := loose_quiet claims isLoose executed
  exact ⟨⟨quiet.claims claims, quiet.leases leases⟩,
    ⟨quiet.kept, loose_fact isLoose fun _ executor isExecutor =>
      acting.executing executor isExecutor kept⟩,
    acting.quiet quiet kept⟩

theorem wp_plain (steady : Steady index role A) {act : NodeAct} {β : Type}
    {next : NodeSig.Ans act → NodeProg β} {Q : β → World → Prop} {world : World}
    (loose : act.isLoose = true) (plain : act.isRuntime = false) (holds : A world)
    (rest : ∀ answer current, A current → (conduct agent etags).wp index role
      (next answer) Q current) :
    (conduct agent etags).wp index role (.step act next) Q world := by
  refine Discipline.wp_step steady.stable holds ?_
  rintro current choice answer after kept ⟨claims, leases⟩ executed -
  have quiet := loose_quiet claims loose executed
  refine ⟨⟨quiet.claims claims, quiet.leases leases⟩, ⟨quiet.kept, loose_fact loose ?_⟩,
    rest answer after (steady.quiet quiet kept)⟩
  rw [plain]
  exact nofun

end Stances

end Barista.Node
