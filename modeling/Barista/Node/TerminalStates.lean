import Barista.Node.InstanceStates

/-!
Contract: an instance that has ended stays ended.

The reconciler writes `failed` without asking whether an operation holds the instance; an
executor then finalizes with the state its submission found. Activity renews a lease without
asking whether the instance is still there to be stopped. Where every such write spares
claimed, destroyed and ended instances, `destroyed` is kept for ever and `failed` leads to a
destroy only.

Owns: the condition on these writes, and what ended instances keep under it.
-/

namespace Barista.Node

open Foundation Fleet

/-- The states from which nothing but a destroy goes on. -/
def InstanceState.isDoomed : InstanceState → Bool
  | failed | destroying | destroyed => true
  | _ => false

theorem InstanceState.canTransition_doomed {source target : InstanceState}
    (legal : source.canTransition target = true) (doomed : source.isDoomed = true) :
    target.isDoomed = true ∧ source ≠ .destroyed := by
  cases source <;> cases target <;>
    first | exact ⟨rfl, by decide⟩ | exact absurd doomed (by decide) |
      exact absurd legal (by decide)

/-- A state written outside an operation is that of an instance no operation holds, and not of
a destroyed one; a lease renewed by activity is not that of an instance that has ended. Crash
recovery's writes are always such; the reconciler's need not be. -/
def SparesClaimed (system : System) (label : Label) (_ : System) : Prop :=
  match system.made label with
  | some (.setInstanceState id _) =>
    system.world.journal.stateOf id ≠ some .destroyed ∧
      ∀ op ∈ system.world.journal.operations.rows, op.instanceId = id → op.executorActive = false
  | some (.setTtlDeadline id _) =>
    (system.world.journal.stateOf id).any InstanceState.isDoomed = false
  | _ => True

instance (system : System) (label : Label) (after : System) :
    Decidable (SparesClaimed system label after) := by
  unfold SparesClaimed
  refine Option.casesOn (system.made label) (isTrue trivial) fun query => ?_
  apply @Query.casesOn _ query <;> intros <;> infer_instance

def Unspoiled (world : World) : Prop :=
  ∀ op ∈ world.journal.operations.rows, op.executorActive = true →
    ∀ recorded, world.aux.recorded op.opId = some recorded →
      world.journal.stateOf op.instanceId = some .failed → recorded = .failed

/-! ### No claimed instance is failed -/

section Unspoiled

variable {agent : Agent} {etags : LeaseVersioning} {labels : List Label}
  {system after : System} {label : Label}

theorem Unspoiled.of_claims {before world : World} (unspoiled : Unspoiled before)
    (claims : ∀ op ∈ world.journal.operations.rows, op.executorActive = true →
      ∃ old ∈ before.journal.operations.rows, old.opId = op.opId ∧
        old.instanceId = op.instanceId ∧ old.executorActive = true)
    (noted : ∀ opId recorded, world.aux.recorded opId = some recorded →
      before.aux.recorded opId = some recorded)
    (states : ∀ id, world.journal.stateOf id = before.journal.stateOf id) : Unspoiled world := by
  intro op member active recorded note failed
  obtain ⟨old, oldMember, sameId, sameInstance, oldActive⟩ := claims op member active
  refine unspoiled old oldMember oldActive recorded (sameId ▸ noted _ _ note) ?_
  rw [sameInstance, ← states]
  exact failed

theorem claims_run {query : Query} {nowMs : Int} {journal next : Journal} {answer : query.Answer}
    (ran : query.run nowMs journal = .ok (answer, next))
    (other : ∀ args, query ≠ .submitAtomically args) {op : OperationRow}
    (member : op ∈ next.operations.rows) (active : op.executorActive = true) :
    ∃ old ∈ journal.operations.rows, old.opId = op.opId ∧ old.instanceId = op.instanceId ∧
      old.executorActive = true := by
  obtain ⟨change, added, written, kept, fresh⟩ := Query.run_operations ran
  rw [written, List.mem_append] at member
  rcases member with old | new
  · obtain ⟨source, sourceMember, rfl⟩ := List.mem_map.mp old
    obtain ⟨step, -⟩ := kept source sourceMember
    exact ⟨source, sourceMember, step.opId.symm, step.instanceId.symm, step.noneTaken active⟩
  · obtain ⟨args, isSubmission, -⟩ := fresh op new
    exact absurd isSubmission (other args)

theorem claims_opened {journal : Journal} {nowMs : Int} {opIds : List String}
    (owned : Ownership journal) {op : OperationRow}
    (member : op ∈ (journal.openJournal.failOps restartMessage nowMs opIds).operations.rows)
    (active : op.executorActive = true) :
    ∃ old ∈ journal.operations.rows, old.opId = op.opId ∧ old.instanceId = op.instanceId ∧
      old.executorActive = true := by
  obtain ⟨-, middle, middleMember, sameId, sameInstance, middleActive⟩ :=
    failOps_active op member active
  obtain ⟨old, oldMember, rfl⟩ := List.mem_map.mp middleMember
  exact ⟨old, oldMember, sameId, sameInstance, owned.inFlight_active old oldMember middleActive⟩

theorem Unspoiled.journaled {before : World} (unspoiled : Unspoiled before) {args : SubmitArgs}
    {index : Nat} {nowMs : Int} {recorded : InstanceState} {journal : Journal}
    (ran : before.journal.submitAtomically args nowMs = .ok (.journaled recorded, journal)) :
    Unspoiled { before with
      journal := journal, aux := before.aux.query index (.submitAtomically args)
        (.journaled recorded) } := by
  obtain ⟨-, idle, appended, fresh, -⟩ := Journal.submitAtomically_journaled ran
  intro op member active noted note failed
  have member : op ∈ before.journal.operations.rows ++ [Journal.newOperation args] :=
    appended ▸ member
  have note : Function.update before.aux.recorded args.opId (some recorded) op.opId = some noted :=
    note
  have failed : journal.stateOf op.instanceId = some .failed := failed
  rcases List.mem_append.mp member with old | new
  · rw [Function.update_of_ne (fresh op old)] at note
    rcases Journal.submitAtomically_stateOf ran op.instanceId with
      same | ⟨_, -, -, onInstance, -⟩ | ⟨-, created⟩
    · exact unspoiled op old active noted note (same ▸ failed)
    · rw [hasInflightOp_false idle op old onInstance] at active
      cases active
    · rw [created] at failed
      cases failed
  · cases List.mem_singleton.mp new
    rw [show (Journal.newOperation args).opId = args.opId from rfl, Function.update_self] at note
    cases note
    have failed : journal.stateOf args.instanceId = some .failed := failed
    rcases Journal.submitAtomically_recorded ran with ⟨-, moved⟩ | ⟨-, -, absent | created⟩
    · rw [moved] at failed
      exact Option.some.inj failed
    · rw [absent] at failed
      cases failed
    · rw [created] at failed
      cases failed

/-- **No claimed instance is failed** by a step that spares claimed instances. -/
theorem Unspoiled.step (unspoiled : Unspoiled system.world)
    (reached : System.reach agent etags labels = some system)
    (stepped : System.next agent etags system label = some after)
    (spares : SparesClaimed system label after) : Unspoiled after.world := by
  have owned : Ownership system.world.journal := (reach_conduct reached).inv.1.owned
  cases made : system.made label with
  | none =>
    refine unspoiled.of_claims (fun op member active => ?_)
      (fun _ _ => System.recorded_unmade made stepped)
      (Journal.stateOf_of_instances (instances_unmade made stepped))
    rcases System.journal_unmade made stepped with same | ⟨nowMs, opIds, -, same⟩
    · exact ⟨op, same ▸ member, rfl, rfl, active⟩
    · rw [same] at member
      exact claims_opened owned member active
  | some query =>
    obtain ⟨_, _, -, fact⟩ := System.made_fact reached made stepped
    obtain ⟨index, nowMs, ⟨answer, journal, ran, written⟩ | ⟨-, same⟩⟩ :=
      System.world_made made stepped
    swap
    · rw [same]
      exact unspoiled
    rw [written]
    cases query with
    | submitAtomically args =>
      cases answer with
      | journaled recorded => exact unspoiled.journaled ran
      | replay | conflict | rejected | claimSuperseded =>
        rw [answered_unchanged ran rfl nofun]
        exact unspoiled
    | finishOperation args =>
      obtain ⟨executor, -, executing, opId, onInstance, -⟩ := fact
      intro op member active recorded noted failed
      obtain ⟨old, oldMember, sameId, sameInstance, oldActive⟩ :=
        claims_run ran (by rintro _ ⟨⟩) member active
      rcases Journal.finishOperation_stateOf ran op.instanceId with same | ⟨named, -⟩
      · refine unspoiled old oldMember oldActive recorded (sameId ▸ noted) ?_
        rw [sameInstance, ← same]
        exact failed
      · -- Whatever still holds the instance that was moved is what moved it, and let it go.
        obtain ⟨own, ownMember, ownId, ownInstance, -, ownActive⟩ := executing.claimed.journaled
        have same := owned.one_active old oldMember own ownMember oldActive ownActive
          (by rw [sameInstance, named, onInstance, ownInstance])
        rw [Journal.finishOperation_released ran member
          (by rw [← sameId, same, ownId, opId])] at active
        cases active
    | setInstanceState id state =>
      simp only [SparesClaimed, made] at spares
      intro op member active recorded noted failed
      obtain ⟨old, oldMember, sameId, sameInstance, oldActive⟩ :=
        claims_run ran (by rintro _ ⟨⟩) member active
      cases ran
      rcases Journal.setInstanceState_stateOf system.world.journal id state nowMs op.instanceId
        with same | ⟨named, -⟩
      · refine unspoiled old oldMember oldActive recorded (sameId ▸ noted) ?_
        rw [sameInstance, ← same]
        exact failed
      · rw [spares.2 old oldMember (sameInstance.trans named)] at oldActive
        cases oldActive
    | _ =>
      refine unspoiled.of_claims (fun op member active => ?_) (fun _ _ noted => noted)
        (Query.run_unmoved ran rfl)
      exact claims_run ran (by rintro _ ⟨⟩) member active

end Unspoiled

/-! ### Ended instances -/

section Ended

variable {agent : Agent} {etags : LeaseVersioning} {labels : List Label}
  {system after : System} {label : Label} {id : String} {source target : InstanceState}

theorem Unspoiled.asRecorded {world : World} {index : Nat} {executor : Executor}
    (unspoiled : Unspoiled world) (executing : Executing index executor world)
    (read : world.journal.stateOf executor.op.instanceId = some source) :
    source = executor.recorded := by
  have recorded := executing.claimed.recorded
  rw [AsRecorded, read] at recorded
  rcases recorded with same | failed
  · exact same
  · obtain ⟨op, member, opId, instanceId, -, active⟩ := executing.claimed.journaled
    rw [failed, unspoiled op member active executor.recorded (opId ▸ executing.noted)
      (by rw [instanceId, read, failed])]

theorem planned_fork {executor : Executor} (planned : Planned executor)
    (fork : executor.kind = .fork) : executor.recorded = .creating := by
  rcases planned_recorded planned (by rw [fork]; decide) with own | ⟨capture, -⟩
  · rw [own, fork]
    rfl
  · rw [fork] at capture
    cases capture

theorem doomed_move (reached : System.reach agent etags labels = some system)
    (unspoiled : Unspoiled system.world)
    (stepped : System.next agent etags system label = some after)
    (spares : SparesClaimed system label after)
    (left : system.world.journal.stateOf id = some source) (doomed : source.isDoomed = true)
    (entered : after.world.journal.stateOf id = some target) (changed : target ≠ source) :
    target.isDoomed = true ∧ source ≠ .destroyed := by
  rcases moved_cases reached stepped left entered changed with
    ⟨args, -, planned⟩ | ⟨index, executor, args, -, executing, -, named, landed⟩ |
    ⟨made, ⟨-, failed⟩ | ⟨-, -, -, legal⟩⟩
  · exact InstanceState.canTransition_doomed
      ((planTransition_edge planned).resolve_left changed) doomed
  · have recorded := unspoiled.asRecorded executing (named ▸ left)
    rw [recorded] at changed doomed ⊢
    rw [landed] at changed ⊢
    rcases settled_edge executing.planned args.outcome with ⟨same, -⟩ | edge
    · exact absurd same changed
    · refine InstanceState.canTransition_doomed (edge.mpr fun succeeded => ?_) doomed
      rw [planned_fork executing.planned succeeded.1] at doomed
      cases doomed
  · simp only [SparesClaimed, made] at spares
    exact ⟨failed ▸ rfl, fun destroyed => spares.1 (destroyed ▸ left)⟩
  · exact InstanceState.canTransition_doomed legal doomed

/-- What is left of an instance that has ended: a doomed state, `destroyed` for ever, and no
deadline that was not there. -/
structure Ended (before after : Journal) (id : String) (source : InstanceState) : Prop where
  doomed : ∃ target, after.stateOf id = some target ∧ target.isDoomed = true ∧
    (source = .destroyed → target = .destroyed)
  unarmed : ∀ deadline, after.deadlineOf id = some deadline → before.deadlineOf id = some deadline

theorem Ended.step (reached : System.reach agent etags labels = some system)
    (unspoiled : Unspoiled system.world)
    (stepped : System.next agent etags system label = some after)
    (spares : SparesClaimed system label after)
    (left : system.world.journal.stateOf id = some source) (doomed : source.isDoomed = true) :
    Ended system.world.journal after.world.journal id source := by
  obtain ⟨target, entered⟩ := stateOf_stays stepped left
  have kept : target.isDoomed = true ∧ (source = .destroyed → target = .destroyed) := by
    by_cases changed : target = source
    · rw [changed]
      exact ⟨doomed, fun destroyed => destroyed⟩
    · obtain ⟨stillDoomed, other⟩ := doomed_move reached unspoiled stepped spares left doomed
        entered changed
      exact ⟨stillDoomed, fun destroyed => absurd destroyed other⟩
  refine ⟨⟨target, entered, kept⟩, fun deadline armed => ?_⟩
  cases made : system.made label with
  | none => rwa [Journal.deadlineOf_of_instances (instances_unmade made stepped)] at armed
  | some query =>
    obtain ⟨nowMs, ⟨answer, ran⟩ | ⟨-, same⟩⟩ := System.journal_made made stepped
    · refine (Query.run_deadlineOf ran armed).resolve_right ?_
      rintro (⟨args, rfl, deadlineSet, moved⟩ | rfl)
      · -- A finalize arms one on the way into `running`, where no doomed instance goes.
        obtain ⟨_, _, -, _, -, -, -, -, -, running, -⟩ := System.made_fact reached made stepped
        rw [entered] at moved
        cases moved
        rw [running (by rw [deadlineSet]; rfl)] at kept
        cases kept.1
      · simp only [SparesClaimed, made, left, Option.any_some, doomed] at spares
        cases spares
    · rwa [same] at armed

theorem Ended.trans {first second third : Journal} {middle : InstanceState}
    (earlier : Ended first second id source) (read : second.stateOf id = some middle)
    (later : Ended second third id middle) : Ended first third id source := by
  obtain ⟨target, reachedTarget, doomed, destroyed⟩ := later.doomed
  obtain ⟨through, readThrough, -, kept⟩ := earlier.doomed
  cases read.symm.trans readThrough
  exact ⟨⟨target, reachedTarget, doomed, fun isDestroyed => destroyed (kept isDestroyed)⟩,
    fun deadline armed => earlier.unarmed deadline (later.unarmed deadline armed)⟩

theorem Ended.refl {journal : Journal} (read : journal.stateOf id = some source)
    (doomed : source.isDoomed = true) : Ended journal journal id source :=
  ⟨⟨source, read, doomed, fun destroyed => destroyed⟩, fun _ armed => armed⟩

def Sound (agent : Agent) (etags : LeaseVersioning) (system : System) : Prop :=
  (∃ labels, System.reach agent etags labels = some system) ∧ Unspoiled system.world

theorem Sound.initial : Sound agent etags System.initial :=
  ⟨⟨[], rfl⟩, by simp [Unspoiled, System.initial, World.initial, Journal.empty]⟩

theorem Sound.step (sound : Sound agent etags system)
    (stepped : System.next agent etags system label = some after)
    (spares : SparesClaimed system label after) : Sound agent etags after := by
  obtain ⟨⟨labels, reached⟩, unspoiled⟩ := sound
  exact ⟨⟨_, System.reach_snoc reached stepped⟩, unspoiled.step reached stepped spares⟩

theorem Ended.run {later : List Label} {last : System} (sound : Sound agent etags system)
    (spares : Along (System.next agent etags) SparesClaimed system later)
    (continued : run (System.next agent etags) system later = some last)
    (read : system.world.journal.stateOf id = some source) (doomed : source.isDoomed = true) :
    Ended system.world.journal last.world.journal id source := by
  refine (spares.invariant (I := fun current => Sound agent etags current ∧
    Ended system.world.journal current.world.journal id source) ?_ ⟨sound, .refl read doomed⟩
    continued).2
  rintro current label after ⟨sound, ended⟩ stepped spares
  obtain ⟨⟨labels, reached⟩, unspoiled⟩ := sound
  obtain ⟨middle, readMiddle, doomedMiddle, -⟩ := ended.doomed
  exact ⟨Sound.step ⟨⟨labels, reached⟩, unspoiled⟩ stepped spares,
    ended.trans readMiddle (.step reached unspoiled stepped spares readMiddle doomedMiddle)⟩

end Ended

/-- **Terminal states are absorbing**, in every run whose writes outside operations spare
claimed and destroyed instances: `destroyed` is never left; from `failed` an instance goes on to
`destroying` and `destroyed` only, and no deadline is armed on it. -/
theorem terminal_states_absorbing (agent : Agent) (etags : LeaseVersioning)
    (labels later : List Label) (system last : System) (id : String)
    (reached : System.reach agent etags labels = some system)
    (continued : run (System.next agent etags) system later = some last)
    (spares : Along (System.next agent etags) SparesClaimed System.initial (labels ++ later)) :
    (system.world.journal.stateOf id = some .destroyed → last.world.journal.stateOf id =
      some .destroyed) ∧
    (system.world.journal.stateOf id = some .failed →
      last.world.journal.stateOf id ∈ [some .failed, some .destroying, some .destroyed] ∧
      ∀ deadline, last.world.journal.deadlineOf id = some deadline →
        system.world.journal.deadlineOf id = some deadline) := by
  obtain ⟨first, second⟩ := spares.append reached
  have sound : Sound agent etags system :=
    first.invariant (fun sound stepped spares => sound.step stepped spares) .initial reached
  constructor
  · intro destroyed
    obtain ⟨target, read, -, kept⟩ := (Ended.run sound second continued destroyed rfl).doomed
    rw [read, kept rfl]
  · intro failed
    have ended := Ended.run sound second continued failed rfl
    obtain ⟨target, read, doomed, -⟩ := ended.doomed
    refine ⟨?_, ended.unarmed⟩
    rw [read]
    cases target <;> first | exact absurd doomed (by decide) | simp

/-- The node crashes while it creates an instance, and recovery fails the instance. -/
def failedSession : List Label := System.ownedSession ++ .crash :: .boot 0 :: System.drive 2 0 35 9

def destroyFailed : List Label :=
  System.ask (.destroyInstance "d" ulid false) :: System.drive 3 0 44 5 ++ .launch 0 ::
    System.drive 4 0 49 20

theorem terminal_states_absorbing_destroy :
    ∃ system last, System.reach .plain freshVersions failedSession = some system ∧
      run (System.next .plain freshVersions) system destroyFailed = some last ∧
      system.world.journal.stateOf ulid = some .failed ∧
      last.world.journal.stateOf ulid ∈ [some .failed, some .destroying, some .destroyed] := by
  have reachable : ((System.reach .plain freshVersions failedSession).any fun system =>
      (run (System.next .plain freshVersions) system destroyFailed).isSome ∧
        system.world.journal.stateOf ulid = some .failed) = true := by decide +kernel
  have spares : Along (System.next .plain freshVersions) SparesClaimed System.initial
      (failedSession ++ destroyFailed) := by decide +kernel
  obtain ⟨system, reached, continues, failed⟩ := exists_of_any reachable
  obtain ⟨last, continued⟩ := Option.isSome_iff_exists.mp continues
  exact ⟨system, last, reached, continued, failed,
    ((terminal_states_absorbing .plain freshVersions failedSession destroyFailed system last ulid
      reached continued spares).2 failed).1⟩

/-- A node whose substrate can be asked for its sandboxes. -/
def Agent.listing : Agent := { Agent.plain with enumeratesSandboxes := true }

/-- An instance runs under a TTL and a snapshot of it is captured; two passes miss its sandbox; a
deletion of the snapshot starts to execute; the third pass fails the instance. -/
def vanishedSession : List Label :=
  .boot 0 :: System.drive 0 0 0 4 ++
    System.ask (.createInstance "c" (some (.pinned ulid 60)) false) ::
    System.drive 1 0 4 6 ++ .launch 0 :: System.drive 2 0 10 18 ++
    System.ask (.startInstance "s" ulid) :: System.drive 3 0 28 5 ++
    .launch 0 :: System.drive 4 0 33 23 ++
    System.ask (.createSnapshot "capture" ulid "") :: System.drive 5 0 56 5 ++
    .launch 0 :: System.drive 6 0 61 27 ++
    .tick :: System.drive 7 0 88 12 ++ .tick :: System.drive 8 0 100 12 ++
    System.ask (.deleteSnapshot "d" "snapshot") :: System.drive 9 0 112 5 ++ .launch 0 ::
    .tick :: System.drive 11 0 117 20

/-- The deletion's finalize writes back the state it found: the failed instance is `running`
again, under a new deadline. -/
theorem failed_instance_revived :
    ∃ system last, System.reach .listing freshVersions vanishedSession = some system ∧
      run (System.next .listing freshVersions) system (System.drive 10 1000 137 22) = some last ∧
      system.world.journal.stateOf ulid = some .failed ∧
      system.world.journal.deadlineOf ulid = some 60000 ∧
      last.world.journal.stateOf ulid = some .running ∧
      last.world.journal.deadlineOf ulid = some 61000 :=
  exists_found_of_any (by decide +kernel)

end Barista.Node
