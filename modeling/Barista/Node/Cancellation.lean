import Barista.Node.TerminalStates

/-!
Contract: the finalize of an operation that was called off.

A cancel settles the operation and leaves its executor at work. When that executor
finalizes, its state is applied along an edge of the table from wherever the instance is by
then; anything else is rolled back, the claim with it.

Owns: exactly which finalizes of a cancelled operation go through, and what is left behind.
-/

namespace Barista.Node

open Foundation Fleet

/-- What the finalize of a cancelled operation should leave: the cancellation stands, the claim
is given up, the instance is where the work left it, and unless that is `destroyed` a destroy
under a fresh key is accepted. -/
structure Released (journal : Journal) (executor : Executor)
    (outcome : Except (ErrorReason × String) Unit) : Prop where
  operation : ∃ op, journal.getOperation executor.op.opId = some op ∧ op.state = .canceled ∧
    op.executorActive = false
  applied : journal.stateOf executor.op.instanceId =
    some (settledState executor.kind executor.recorded outcome)
  destroyable : settledState executor.kind executor.recorded outcome ≠ .destroyed →
    ∀ (agent : Agent) (key opId guestToken : String) (keepSnapshots : Bool)
    (createdAtMs nowMs : Int),
      journal.findOpByIdempotencyKey key = none →
      (∀ op ∈ journal.operations.rows, op.opId ≠ opId) →
      ∃ next, journal.submitAtomically (submitArgs agent .destroy executor.op.instanceId key
        (.destroy keepSnapshots) none opId guestToken createdAtMs) nowMs =
          .ok (.journaled .destroying, next)

/-- When the state a cancelled operation reached can be applied: the instance is where its
submission recorded it and the operation is no fork that succeeded; or the instance was failed
meanwhile, and the operation leaves it failed or destroys it. -/
def Applicable (journal : Journal) (executor : Executor)
    (outcome : Except (ErrorReason × String) Unit) : Prop :=
  (journal.stateOf executor.op.instanceId = some executor.recorded ∧
      ¬ (executor.kind = .fork ∧ outcome.isOk = true)) ∨
    (journal.stateOf executor.op.instanceId = some .failed ∧
      (settledState executor.kind executor.recorded outcome).isDoomed = true)

instance (journal : Journal) (executor : Executor) (outcome : Except (ErrorReason × String) Unit) :
    Decidable (Applicable journal executor outcome) := by
  unfold Applicable
  infer_instance

section Finalize

variable {journal next : Journal} {executor : Executor} {args : FinishArgs} {nowMs : Int}
  {outcome : Except (ErrorReason × String) Unit} {source : InstanceState}

theorem settledState_fork {recorded : InstanceState} (creating : recorded = .creating)
    (succeeded : outcome.isOk = true) : settledState .fork recorded outcome = .running := by
  cases outcome with
  | error => cases succeeded
  | ok => rw [creating]; rfl

theorem applicable_iff (planned : Planned executor) (recorded : AsRecorded journal executor)
    (read : journal.stateOf executor.op.instanceId = some source) :
    Applicable journal executor outcome ↔
      (source = settledState executor.kind executor.recorded outcome ∨
        source.canTransition (settledState executor.kind executor.recorded outcome) = true) := by
  rw [AsRecorded, read] at recorded
  unfold Applicable
  rw [read, Option.some.injEq, Option.some.injEq]
  constructor
  · rintro (⟨same, notForked⟩ | ⟨failed, doomed⟩)
    · rw [same]
      rcases settled_edge planned outcome with ⟨unmoved, -⟩ | edge
      · exact .inl unmoved.symm
      · exact .inr (edge.mpr notForked)
    · rw [failed]
      cases landed : settledState executor.kind executor.recorded outcome <;>
        rw [landed] at doomed <;>
        first | exact absurd doomed (by decide) | exact .inl rfl | exact .inr (by decide)
  · intro guard
    rcases recorded with same | failed
    · refine .inl ⟨same, fun forked => ?_⟩
      have creating := planned_fork planned forked.1
      rw [forked.1, settledState_fork creating forked.2, same, creating] at guard
      exact absurd guard (by decide)
    · rw [failed] at guard
      rcases guard with same | legal
      · exact .inr ⟨failed, same ▸ rfl⟩
      · exact .inr ⟨failed, (InstanceState.canTransition_doomed legal rfl).1⟩

theorem canceled_uncounted {opId : String}
    (canceled : (journal.getOperation opId).map OperationRow.state = some .canceled) :
    journal.countOperation opId Journal.inFlight = 0 := by
  obtain ⟨found, read, isCanceled⟩ := Option.map_eq_some_iff.mp canceled
  refine Table.count_eq_zero.mpr fun op member => ?_
  by_cases named : op.opId = opId
  · rw [Journal.getOperation_eq read member named]
    simp [Journal.inFlight, isCanceled, OperationState.isInFlight]
  · simp [named]

theorem finishOperation_canceled {row : InstanceRow}
    (canceled : (journal.getOperation args.opId).map OperationRow.state = some .canceled)
    (found : journal.getInstance args.instanceId = some row)
    (legal : row.state = args.state ∨ row.state.canTransition args.state = true) :
    ∃ finalized, journal.finishOperation args nowMs =
      .ok (finalized, (journal.advanceInstance args nowMs).releaseExecutor args.opId) := by
  simp [Journal.finishOperation, canceled_uncounted canceled, canceled, found, legal]

theorem released_canceled (owned : Ownership journal) (claimed : Claimed journal executor)
    (canceled : (journal.getOperation executor.op.opId).map OperationRow.state = some .canceled)
    (opId : args.opId = executor.op.opId) (instanceId : args.instanceId = executor.op.instanceId)
    (settled : args.state = settledState executor.kind executor.recorded args.outcome)
    {finalized : Finalized} (ran : journal.finishOperation args nowMs = .ok (finalized, next)) :
    Released next executor args.outcome := by
  obtain ⟨own, member, ownId, ownInstance, -, active⟩ := claimed.journaled
  have onlyCanceled : journal.countOperation args.opId Journal.inFlight ≠ 1 := by
    rw [opId, canceled_uncounted canceled]
    decide
  obtain ⟨⟨row, found, -⟩, rfl⟩ : (∃ row, journal.getInstance args.instanceId = some row ∧
      (row.state = args.state ∨ row.state.canTransition args.state = true)) ∧
      next = (journal.advanceInstance args nowMs).releaseExecutor args.opId := by
    rcases Journal.finishOperation_cases ran with ⟨counted, -⟩ | ⟨-, -, guarded, written⟩
    · exact absurd counted onlyCanceled
    · exact ⟨guarded, written⟩
  have read : Journal.getInstance ((journal.advanceInstance args nowMs).releaseExecutor args.opId)
      executor.op.instanceId = some { row with
        state := args.state, updatedAtMs := nowMs, stopReason := args.stopReason
        ttlDeadlineMs := args.ttlDeadlineMs, ready := if args.clearReady then false
          else row.ready } := by
    have advanced : (journal.advanceInstance args nowMs).getInstance executor.op.instanceId = _ :=
      Journal.getInstance_updateInstance ..
    rw [if_pos instanceId.symm, ← instanceId, found] at advanced
    rw [← instanceId]
    exact advanced
  refine ⟨?_, ?_, ?_⟩
  · -- The one row under this id is the cancelled one.
    have released : { own with executorActive := false } ∈
        ((journal.advanceInstance args nowMs).releaseExecutor args.opId).operations.rows :=
      List.mem_map.mpr ⟨own, member, by simp [ownId, opId]⟩
    obtain ⟨found, isFound, isCanceled⟩ := Option.map_eq_some_iff.mp canceled
    cases located : ((journal.advanceInstance args nowMs).releaseExecutor args.opId).getOperation
        executor.op.opId with
    | none =>
      have unnamed := Table.find?_none located _ released
      simp [ownId] at unnamed
    | some op =>
      have same := Journal.getOperation_eq located released ownId
      have before := Journal.getOperation_eq isFound member ownId
      exact ⟨op, rfl, by rw [← same, before, ← isCanceled], by rw [← same]⟩
  · rw [Journal.stateOf, read, settled]
    rfl
  · intro survives agent key fresh guestToken keepSnapshots createdAtMs laterMs unbound unused
    refine Journal.submitAtomically_accepts unbound unused ?_ ?_ rfl rfl
    · refine hasInflightOp_idle fun op opMember onInstance => ?_
      by_contra still
      rw [Bool.not_eq_false] at still
      obtain ⟨old, oldMember, sameId, sameInstance, oldActive⟩ :=
        claims_run (show (Query.finishOperation args).run nowMs journal = _ from ran)
          (by rintro _ ⟨⟩) opMember still
      have same := owned.one_active old oldMember own member oldActive active
        (by rw [sameInstance, onInstance, ownInstance]; rfl)
      rw [Journal.finishOperation_released ran opMember
        (by rw [← sameId, same, ownId, opId])] at still
      cases still
    · have legal : args.state.canTransition .destroying = true := by
        rw [settled]
        simpa [InstanceState.canTransition] using survives
      simp [Journal.plannedState, submitArgs, createSpec, read, planTransition,
        OpKind.states, legal]

end Finalize

/-- **A cancel wedges nothing, if and only if its executor's state can be applied.** In any
reachable state, when the executor of a cancelled operation finalizes and the journal can be
written, the finalize leaves the cancellation standing, the claim given up, the instance where
the work left it and open to a destroy, exactly when the state is applicable. -/
theorem canceled_finalize_releases_iff (agent : Agent)
    (etags : LeaseVersioning) (labels : List Label) (system after : System)
    (index : Nat) (choice : Choice) (executor : Executor) (args : FinishArgs)
    (continuation : Except String Finalized → NodeProg Unit)
    (reached : System.reach agent etags labels = some system) (located : system.tasks[index]? =
      some ⟨.executor executor, .step (S := NodeSig) (.journal (.finishOperation args))
        continuation⟩)
    (writes : choice.journalError = none)
    (stepped : System.next agent etags system (.deliver index choice) = some after)
    (canceled : (system.world.journal.getOperation executor.op.opId).map OperationRow.state =
      some .canceled) :
    Released after.world.journal executor args.outcome ↔
      Applicable system.world.journal executor args.outcome := by
  have made : system.made (.deliver index choice) = some (.finishOperation args) := by
    simp [System.made, located, writes]
  obtain ⟨_, role, acts, accepted, rfl, executing, opId, instanceId, settled, -⟩ :=
    System.made_fact reached made stepped
  obtain rfl : executor = accepted := by
    simpa [System.actor, located] using acts
  have owned : Ownership system.world.journal := (reach_conduct reached).inv.1.owned
  have canceledArgs : (system.world.journal.getOperation args.opId).map OperationRow.state =
      some .canceled := by rw [opId, canceled]
  obtain ⟨_, nowMs, ⟨finalized, journal, ran, written⟩ | ⟨⟨cause, refused⟩, same⟩⟩ :=
    System.world_made made stepped
  · rw [written]
    refine ⟨fun _ => ?_, fun _ => released_canceled owned executing.claimed canceled opId instanceId
      settled ran⟩
    rcases Journal.finishOperation_cases ran with ⟨counted, -⟩ | ⟨-, -, ⟨row, found, legal⟩, -⟩
    · rw [canceled_uncounted canceledArgs] at counted
      cases counted
    · rw [settled] at legal
      rw [instanceId] at found
      exact (applicable_iff executing.planned executing.claimed.recorded
        (by rw [Journal.stateOf, found]; rfl)).mpr legal
  · rw [same]
    constructor
    · -- Nothing was written, so the claim stands.
      rintro ⟨⟨op, read, -, released⟩, -⟩
      obtain ⟨found, isFound, -, active⟩ := executing.claimed.getOperation
      rw [read] at isFound
      cases isFound
      rw [released] at active
      cases active
    · intro applicable
      obtain ⟨source, read⟩ : ∃ source, system.world.journal.stateOf executor.op.instanceId =
        some source := by
        rcases applicable with ⟨read, -⟩ | ⟨read, -⟩ <;> exact ⟨_, read⟩
      obtain ⟨row, found, rfl⟩ := Option.map_eq_some_iff.mp read
      have legal := (applicable_iff executing.planned executing.claimed.recorded read).mp applicable
      rw [← settled] at legal
      obtain ⟨finalized, ran⟩ := finishOperation_canceled canceledArgs (instanceId ▸ found) legal
      have refused : system.world.journal.finishOperation args nowMs = .error cause := refused
      rw [ran] at refused
      cases refused

/-- A create is called off while it executes; its finalize is next. -/
def calledOffCreate : List Label :=
  System.ownedSession ++ .launch 0 :: System.drive 2 0 35 13 ++
    .invoke (.cancel (ulidOf 29) ulid "called off") :: System.drive 3 0 48 2

def finalizing (system : System) (index : Nat) : Option (Executor × FinishArgs) :=
  match system.tasks[index]? with
  | some ⟨.executor executor, .step (.journal (.finishOperation args)) _⟩ => some (executor, args)
  | _ => none

theorem finalizing_located {system : System} {index : Nat} {executor : Executor} {args : FinishArgs}
    (next : finalizing system index = some (executor, args)) :
    ∃ continuation, system.tasks[index]? = some ⟨.executor executor,
      .step (S := NodeSig) (.journal (.finishOperation args)) continuation⟩ := by
  unfold finalizing at next
  split at next
  · next found =>
      cases next
      exact ⟨_, found⟩
  · cases next

theorem canceled_finalize_releases_create : ∃ system after executor args,
      System.reach .plain freshVersions calledOffCreate = some system ∧
      System.next .plain freshVersions system (.deliver 2 (.calm 0 50)) = some after ∧
      finalizing system 2 = some (executor, args) ∧
      Released after.world.journal executor args.outcome := by
  have run : ((System.reach .plain freshVersions calledOffCreate).any fun system =>
      (System.next .plain freshVersions system (.deliver 2 (.calm 0 50))).isSome ∧
        (finalizing system 2).any fun ready =>
          (system.world.journal.getOperation ready.1.op.opId).map OperationRow.state =
              some .canceled ∧
            Applicable system.world.journal ready.1 ready.2.outcome) = true := by decide +kernel
  obtain ⟨system, reached, steps, ready⟩ := exists_of_any run
  obtain ⟨after, stepped⟩ := Option.isSome_iff_exists.mp steps
  obtain ⟨⟨executor, args⟩, next, canceled, applicable⟩ := exists_of_any ready
  obtain ⟨continuation, located⟩ := finalizing_located next
  exact ⟨system, after, executor, args, reached, stepped, next,
    (canceled_finalize_releases_iff .plain freshVersions calledOffCreate system after 2 (.calm 0 50)
      executor args continuation reached located rfl stepped canceled).mpr applicable⟩

/-- A fork is called off while it executes; its work succeeds, and its finalize is next. -/
def calledOffFork : List Label :=
  System.forkedSession ++ .invoke (.cancel (ulidOf 144) "f" "called off") ::
    System.drive 9 0 165 2

/-- The finalize of a fork called off and carried out is refused: the instance stays `creating`,
the claim stands, and a destroy meets a conflict. -/
theorem canceled_fork_wedges :
    ∃ system after, System.reach .plain freshVersions calledOffFork = some system ∧
      (finalizing system 8).isSome = true ∧
      System.next .plain freshVersions system (.deliver 8 (.calm 0 167)) = some after ∧
      after.world.journal.stateOf "f" = some .creating ∧
      (after.world.journal.getOperation (ulidOf 144)).map
        (fun op => (op.state, op.executorActive)) =
        some (.canceled, true) ∧ (after.world.journal.submitAtomically
        (submitArgs .plain .destroy "f" "destroy" (.destroy false) none "d" "" 0) 0).toOption.map
          Prod.fst = some .conflict := by
  have run : ((System.reach .plain freshVersions calledOffFork).any fun system =>
      (finalizing system 8).isSome ∧
        (System.next .plain freshVersions system (.deliver 8 (.calm 0 167))).any fun after =>
          after.world.journal.stateOf "f" = some .creating ∧
          (after.world.journal.getOperation (ulidOf 144)).map
            (fun op => (op.state, op.executorActive)) = some (.canceled, true) ∧
          (after.world.journal.submitAtomically
            (submitArgs .plain .destroy "f" "destroy" (.destroy false) none "d" "" 0)
            0).toOption.map
              Prod.fst = some .conflict) = true := by decide +kernel
  obtain ⟨system, reached, next, facts⟩ := exists_of_any run
  obtain ⟨after, stepped, facts⟩ := exists_of_any facts
  exact ⟨system, after, reached, next, stepped, facts⟩

end Barista.Node
