import Barista.Node.InstanceStates
import Barista.Node.Recovery
import Barista.Node.Settlement

/-!
Contract: crash recovery ends in the same states however often a crash cuts it short.

`settled` and `interrupted` say where recovery takes an instance and an operation, from the
journal alone and what the substrate answers. Along a recovery the two maps do not change; at its
end they are the identity.

Owns: that invariant, from a crash in any reachable state to the end of a recovery. Does not own:
the recovery of the fleet that follows.
-/

namespace Barista.Node

open Foundation Fleet
open Prog (Heeds After)

/-! ### Where recovery leads -/

/-- Where recovery takes an instance, given the substrate's answers. -/
def settled (answers : (call : RuntimeCall) → call.Answer) (id : String) :
    InstanceState → InstanceState
  | .stopping =>
    match answers (.stop id 0) with
    | .ok () => .stopped
    | .error _ => .failed
  | .checkpointing => .running
  | .destroying => .destroyed
  | state => if state.isTransitional then .failed else state

def interrupted (state : OperationState) : OperationState :=
  if state.isInFlight then .failed else state

variable {answers : (call : RuntimeCall) → call.Answer} {id : String}

theorem settled_of_resting {state : InstanceState} (resting : state.isTransitional = false) :
    settled answers id state = state := by
  cases state <;> first | rfl | cases resting

theorem settled_resting (state : InstanceState) :
    (settled answers id state).isTransitional = false := by
  cases state with
  | stopping =>
    cases answer : answers (.stop id 0) <;> simp only [settled, answer] <;> rfl
  | _ => rfl

theorem interrupted_of_settled {state : OperationState} (resting : state.isInFlight = false) :
    interrupted state = state := by
  simp [interrupted, resting]

/-! ### Operations -/

namespace Journal

variable {journal : Journal}

def operationState (journal : Journal) (opId : String) : Option OperationState :=
  (journal.getOperation opId).map OperationRow.state

theorem operationState_openJournal (opId : String) :
    journal.openJournal.operationState opId = journal.operationState opId := by
  unfold operationState getOperation openJournal
  rw [Table.find?_update (by simp), Option.map_map]
  rfl

theorem operationState_failOps (message : String) (nowMs : Int) (opIds : List String)
    (opId : String) : (journal.failOps message nowMs opIds).operationState opId =
      (journal.operationState opId).map fun state => if opId ∈ opIds then .failed else state := by
  induction opIds generalizing journal with
  | nil => simp [failOps]
  | cons first rest ih =>
    have one : (journal.finishOpFailed first .unspecified message nowMs).operationState opId =
        (journal.operationState opId).map fun state => if opId = first then .failed else state := by
      unfold operationState getOperation finishOpFailed updateOperation
      rw [Table.find?_update (by simp), Option.map_map, Option.map_map]
      refine Option.map_congr fun op found => ?_
      have named : op.opId = opId := by simpa using (Table.mem_of_find? found).2
      by_cases hit : opId = first <;> simp [named, hit]
    rw [failOps, ih, one, Option.map_map]
    refine Option.map_congr fun state _ => ?_
    by_cases hit : opId = first <;> by_cases later : opId ∈ rest <;> simp [hit, later]

theorem interrupted_failOps {opIds : List String} (message : String) (nowMs : Int)
    (listed : ∀ opId ∈ opIds, opId ∈ journal.openJournal.inFlightOps) (opId : String) :
    ((journal.openJournal.failOps message nowMs opIds).operationState opId).map interrupted =
      (journal.operationState opId).map interrupted := by
  rw [operationState_failOps, operationState_openJournal, Option.map_map]
  refine Option.map_congr fun state found => ?_
  by_cases failing : opId ∈ opIds
  · obtain ⟨op, member, named, unsettled⟩ := mem_inFlightOps (listed opId failing)
    rw [← operationState_openJournal] at found
    obtain ⟨row, read, rfl⟩ := Option.map_eq_some_iff.mp found
    rw [getOperation_eq read member named] at unsettled
    have fails : interrupted row.state = .failed := if_pos unsettled
    simp only [Function.comp_apply, if_pos failing, fails]
    rfl
  · simp [failing]

end Journal

/-! ### A recovery under way -/

def atLeases : NodeTask → Bool
  | ⟨.boot _, .step (.journal .heldLeases) _⟩ => true
  | _ => false

def System.recovered (system : System) : Bool := system.tasks.any atLeases

def Restarting (answers : (call : RuntimeCall) → call.Answer) (system : System) (label : Label)
    (_ : System) : Prop :=
  match label with
  | .deliver index choice => choice.runtime = answers ∧ (system.tasks[index]?).any atLeases = false
  | _ => True

variable {states : String → Option InstanceState} {trace : NodeTrace}

/-- What recovery can hear when it is to lead to `states`. -/
structure Consistent (answers : (call : RuntimeCall) → call.Answer)
    (states : String → Option InstanceState) (exchange : Exchange NodeSig) : Prop where
  distinct : ListsDistinctly exchange
  early : exchange.act ≠ .journal .heldLeases
  runtime : ∀ call answer, exchange = ⟨.runtime call, answer⟩ → answer = answers call
  listing : ∀ rows, exchange = ⟨.journal .listInstances, .ok rows⟩ →
    ∀ row ∈ rows, states row.instanceId = some (settled answers row.instanceId row.state)

theorem verdict_settled {row : InstanceRow} {state : InstanceState}
    (heard : ∀ exchange ∈ trace, Consistent answers states exchange)
    (transitional : row.state.isTransitional = true) (verdict : Verdict trace row state) :
    state = settled answers row.instanceId row.state := by
  cases found : row.state with
  | stopping =>
    simp only [Verdict, found, Succeeded, Refused, sandboxExchange, if_true] at verdict
    rcases verdict with ⟨stopped, rfl⟩ | ⟨⟨cause, refused⟩, rfl⟩
    · have answer := (heard _ stopped).runtime _ _ rfl
      simp only [settled, ← answer]
    · have answer := (heard _ refused).runtime _ _ rfl
      simp only [settled, ← answer]
  | checkpointing =>
    simp only [Verdict, found] at verdict
    exact verdict
  | destroying =>
    simp only [Verdict, found] at verdict
    exact verdict.2
  | creating | starting | pausing | resuming =>
    simp only [Verdict, found] at verdict
    exact verdict
  | _ =>
    rw [found] at transitional
    cases transitional

/-- A boot that is recovering: what it has heard, and what it has left to do. -/
structure Booting (answers : (call : RuntimeCall) → call.Answer)
    (states : String → Option InstanceState) (journal : Journal)
    (trace : NodeTrace) : Prop where
  heard : ∀ exchange ∈ trace, Consistent answers states exchange
  pending : ∀ rows, Listed trace rows → ∀ id state, journal.stateOf id = some state →
    state.isTransitional = true →
      (∃ row ∈ rows, row.instanceId = id ∧ row.state.isTransitional = true) ∧
        ∀ written, ¬ Journaled trace id written

/-- The node between a crash and the end of the recovery that leads to these states. -/
structure Resuming (answers : (call : RuntimeCall) → call.Answer)
    (states : String → Option InstanceState) (operations : String → Option OperationState)
    (system : System) (traces : Nat → NodeTrace) : Prop where
  waiting : system.world.stage = .down ∨ system.world.stage = .booting
  unspawned : system.world.spawned = []
  instances : ∀ id, (system.world.journal.stateOf id).map (settled answers id) = states id
  operations : ∀ opId, (system.world.journal.operationState opId).map interrupted = operations opId
  quiet : system.world.stage = .booting → NoneActive system.world.journal
  live : ∀ index role act continuation,
    system.tasks[index]? = some ⟨role, .step act continuation⟩ → role.isPeer = true ∨
      ((∃ failed, role = .boot failed) ∧
        Booting answers states system.world.journal (traces index))

section Steps

variable {agent : Agent} {etags : LeaseVersioning} {labels : List Label}
  {system after : System} {label : Label} {operations : String → Option OperationState} {base : Nat}

theorem bucket_onBucket {α : Type} (origin : Origin) (program : LeaseProg Lease α) :
    (onBucket origin program).Emits fun act : NodeAct => ∃ request,
      act = .bucket origin request := by
  induction program with
  | pure value => trivial
  | step request next ih =>
    exact Prog.Emits.bind ⟨⟨request, rfl⟩, fun _ => trivial⟩ ih

variable {index : Nat} {act : NodeAct} {choice : Choice}

theorem recovery_exec {before later : World} {answer : NodeSig.Ans act} {history : NodeTrace}
    (permitted : Resolves history act ∨ ∃ origin request, act = .bucket origin request)
    (executed : (nodeMachine etags).exec index act choice before = some (answer, later)) :
    later.stage = before.stage ∧ later.spawned = before.spawned ∧
      later.journal.operations = before.journal.operations ∧
      ∀ id, later.journal.stateOf id = before.journal.stateOf id ∨
        ∃ state nowMs, (⟨act, answer⟩ : Exchange NodeSig) =
          ⟨.journal (.setInstanceState id state), .ok nowMs⟩ ∧
          later.journal.stateOf id = some state := by
  rcases permitted with resolves | ⟨origin, request, rfl⟩
  case inr =>
    obtain ⟨result, -, same⟩ := Option.map_eq_some_iff.mp executed
    cases same
    exact ⟨rfl, rfl, rfl, fun _ => .inl rfl⟩
  cases act with
  | journal query =>
    rcases query_cases executed with ⟨_, -, rfl⟩ | ⟨result, journal, rfl, ran, rfl⟩
    · exact ⟨rfl, rfl, rfl, fun _ => .inl rfl⟩
    refine ⟨rfl, rfl, ?_⟩
    cases query with
    | setInstanceState target state =>
      cases ran
      refine ⟨rfl, fun id => ?_⟩
      rcases Journal.setInstanceState_stateOf before.journal target state choice.nowMs id with
        same | ⟨rfl, -, entered⟩
      · exact .inl same
      · exact .inr ⟨state, _, rfl, entered⟩
    | listInstances | insertEvent | setRunEpoch | forgetCredentials =>
      have unmoved := Query.run_unmoved ran rfl
      cases ran
      exact ⟨rfl, fun id => .inl (unmoved id)⟩
    | _ => exact resolves.elim
  | runtime call =>
    cases executed
    exact ⟨rfl, rfl, rfl, fun _ => .inl rfl⟩
  | _ => exact resolves.elim

/-! ### Between a crash and the end of the recovery -/

/-- The node is down, or recovering: nothing runs but peers and boots started since there were `base`
tasks, and no boot has gone past its crash recovery. -/
structure Waiting (base : Nat) (system : System) (traces : Nat → NodeTrace) :
    Prop where
  waiting : system.world.stage = .down ∨ system.world.stage = .booting
  unspawned : system.world.spawned = []
  since : base ≤ system.tasks.length
  live : ∀ index role act continuation,
    system.tasks[index]? = some ⟨role, .step act continuation⟩ → role.isPeer = true ∨
      ((∃ failed, role = .boot failed) ∧ base ≤ index ∧
        ∀ exchange ∈ traces index, exchange.act ≠ .journal .heldLeases)

variable {continuation : NodeSig.Ans act → NodeProg Unit}

theorem Waiting.acts (reached : System.reach agent etags labels = some system)
    (waiting : Waiting base system (System.traces agent etags labels)) {role : Role}
    (found : system.tasks[index]? = some ⟨role, .step act continuation⟩)
    (unrecovered : (system.tasks[index]?).any atLeases = false) :
    (role.isPeer = true ∧ ∃ origin request, act = .bucket origin request) ∨
      ((∃ failed, role = .boot failed) ∧ base ≤ index ∧
        Recovers (System.traces agent etags labels index) act) := by
  have residual := System.next_residual reached found
  rcases waiting.live index role act continuation found with isPeer | ⟨⟨failed, rfl⟩, since, early⟩
  · refine .inl ⟨isPeer, ?_⟩
    cases role with
    | peer request =>
      have emits : (Role.prog agent (.peer request)).Emits
          fun act : NodeAct => ∃ request, act = .bucket .peer request :=
        Prog.Emits.bind (bucket_onBucket .peer _) fun _ => trivial
      exact ⟨_, (emits.after residual).2.1⟩
    | _ => cases isPeer
  · refine .inr ⟨⟨failed, rfl⟩, since, ?_⟩
    have heeds := (heeds_boot agent failed).after residual
      (System.traces_satisfy (fun executed => exec_listsDistinctly executed) reached index)
    rcases heeds.1 with recovers | ⟨rfl, -⟩ | ⟨⟨before, answer, late, split, -⟩, -⟩
    · exact recovers
    · rw [found] at unrecovered
      cases unrecovered
    · rw [List.nil_append] at split
      exact absurd rfl (early ⟨.journal .heldLeases, answer⟩ (by rw [split]; simp))

variable {journal : Journal}

theorem Booting.recovers {failed : List OperationRow}
    (booting : Booting answers states journal trace)
    (residual : After (boot agent failed) trace (.step act continuation)) :
    Recovers trace act ∨ (act = .journal .heldLeases ∧ Recovered trace (.ok ())) := by
  have heeds := (heeds_boot agent failed).after residual
    fun exchange member => (booting.heard exchange member).distinct
  rcases heeds.1 with recovers | ending | ⟨⟨early, answer, late, rfl, -⟩, -⟩
  · exact .inl recovers
  · exact .inr ending
  · exact absurd rfl (booting.heard ⟨.journal .heldLeases, answer⟩ (by simp)).early

theorem Booting.writes {target : String} {state : InstanceState}
    (booting : Booting answers states journal trace)
    (resolves : Resolves trace (.journal (.setInstanceState target state))) :
    states target = some state ∧ state.isTransitional = false := by
  obtain ⟨rows, row, listed, member, transitional, rfl, verdict⟩ := resolves
  have leads := verdict_settled booting.heard transitional verdict
  refine ⟨?_, ?_⟩
  · rw [leads]
    exact (booting.heard _ listed).listing rows rfl row member
  · rw [leads]
    exact settled_resting row.state

theorem stateOf_listed {state : InstanceState} (read : journal.stateOf id = some state) :
    ∃ row ∈ journal.listInstances, row.instanceId = id ∧ row.state = state := by
  obtain ⟨row, found, rfl⟩ := Option.map_eq_some_iff.mp read
  refine ⟨row, ?_, Journal.getInstance_named found, rfl⟩
  exact (List.mem_insertionSort _).mpr (Table.mem_of_find? found).1

theorem consistent_exec {before later : World} {answer : NodeSig.Ans act}
    (steady : choice.runtime = answers)
    (instances : ∀ id, (before.journal.stateOf id).map (settled answers id) = states id)
    (early : act ≠ .journal .heldLeases)
    (executed : (nodeMachine etags).exec index act choice before = some (answer, later)) :
    Consistent answers states ⟨act, answer⟩ := by
  refine ⟨exec_listsDistinctly executed, early, fun call heard same =>
    ?_, fun rows same row member => ?_⟩
  · cases same
    cases executed
    rw [steady]
  · cases same
    rcases query_cases executed with ⟨_, refused, -⟩ | ⟨_, _, answered, ran, -⟩
    · cases refused
    · cases ran
      cases answered
      rw [← instances, listInstances_read member]
      rfl

theorem Booting.moved {before later : Journal} (booting : Booting answers states before trace)
    (still : ∀ id state, later.stateOf id = some state → state.isTransitional = true →
      before.stateOf id = some state) : Booting answers states later trace :=
  ⟨booting.heard, fun rows listed id state read transitional =>
    booting.pending rows listed id state (still id state read transitional) transitional⟩

theorem Booting.snoc {before later : Journal} {exchange : Exchange NodeSig}
    (booting : Booting answers states before trace) (recovers : Recovers trace exchange.act)
    (heard : Consistent answers states exchange)
    (listing : ∀ rows, exchange = ⟨.journal .listInstances, .ok rows⟩ → rows = later.listInstances)
    (written : ∀ id state nowMs, exchange = ⟨.journal (.setInstanceState id state), .ok nowMs⟩ →
        ∀ left, later.stateOf id = some left → left = state)
    (still : ∀ id state, later.stateOf id = some state → state.isTransitional = true →
      before.stateOf id = some state) : Booting answers states later (trace ++ [exchange]) := by
  refine ⟨?_, fun rows listed id state read transitional => ?_⟩
  · rw [List.forall_mem_append]
    exact ⟨booting.heard, by simpa using heard⟩
  -- The exchange itself journals no state for an instance that is still in transition.
  have unwritten : ∀ target nowMs, exchange ≠ ⟨.journal (.setInstanceState id target),
    .ok nowMs⟩ := by
    rintro target nowMs rfl
    have rests := (booting.writes recovers.1).2
    rw [← written id target nowMs rfl state read, transitional] at rests
    cases rests
  have fresh (before : ∀ target, ¬ Journaled trace id target) :
      ∀ target, ¬ Journaled (trace ++ [exchange]) id target := by
    rintro target ⟨nowMs, member⟩
    rcases List.mem_append.mp member with old | new
    · exact before target ⟨nowMs, old⟩
    · exact unwritten target nowMs (List.mem_singleton.mp new).symm
  rcases List.mem_append.mp listed with old | new
  · obtain ⟨row, unjournaled⟩ :=
      booting.pending rows old id state (still id state read transitional) transitional
    exact ⟨row, fresh unjournaled⟩
  · have isListing := (List.mem_singleton.mp new).symm
    refine ⟨?_, fresh ?_⟩
    · obtain ⟨row, member, named, same⟩ := stateOf_listed read
      refine ⟨row, ?_, named, same ▸ transitional⟩
      rw [listing rows isListing]
      exact member
    · -- A listing comes before any state is journaled.
      subst isListing
      rintro target ⟨nowMs, member⟩
      obtain ⟨event, isEvent⟩ := recovers.1 _ member
      cases isEvent

theorem Resuming.waits {traces : Nat → NodeTrace}
    (resuming : Resuming answers states operations system traces) : Waiting 0 system traces :=
  ⟨resuming.waiting, resuming.unspawned, Nat.zero_le _, fun index role act continuation found =>
    (resuming.live index role act continuation found).imp id fun boots =>
      ⟨boots.1, Nat.zero_le _, fun exchange member => (boots.2.heard exchange member).early⟩⟩

theorem Resuming.deliver (reached : System.reach agent etags labels = some system)
    (resuming : Resuming answers states operations system (System.traces agent etags labels))
    (stepped : System.next agent etags system (.deliver index choice) = some after)
    (restarting : Restarting answers system (.deliver index choice) after) :
    Resuming answers states operations after (System.tracesAfter etags system
      (.deliver index choice) (System.traces agent etags labels)) := by
  obtain ⟨role, act, continuation, answer, world, found, executed, rfl⟩ := Pool.step_cases stepped
  obtain ⟨steady, unfinished⟩ := restarting
  have acts : (role.isPeer = true ∧ ∃ origin request, act = .bucket origin request) ∨
      ((∃ failed, role = .boot failed) ∧
        Booting answers states system.world.journal (System.traces agent etags labels index) ∧
        Recovers (System.traces agent etags labels index) act) := by
    rcases resuming.waits.acts reached found unfinished with peer | ⟨⟨failed, rfl⟩, -, recovers⟩
    · exact .inl peer
    · obtain ⟨-, booting⟩ := (resuming.live index _ _ _ found).resolve_left Bool.false_ne_true
      exact .inr ⟨⟨failed, rfl⟩, booting, recovers⟩
  have noted : System.tracesAfter etags system (.deliver index choice)
      (System.traces agent etags labels) =
      Function.update (System.traces agent etags labels) index
        (System.traces agent etags labels index ++ [⟨act, answer⟩]) := by
    simp [System.tracesAfter, System.exchanged, found, executed]
  generalize System.traces agent etags labels = traces at *
  have permitted : Resolves (traces index) act ∨ ∃ origin request, act = .bucket origin request :=
    acts.symm.imp (fun boots => boots.2.2.1) And.right
  obtain ⟨stage, spawned, kept, moves⟩ := recovery_exec permitted executed
  have writes : ∀ id state nowMs, (⟨act, answer⟩ : Exchange NodeSig) =
      ⟨.journal (.setInstanceState id state), .ok nowMs⟩ →
      states id = some state ∧ state.isTransitional = false := by
    rintro id state nowMs same
    cases same
    rcases acts with ⟨-, _, _, ⟨⟩⟩ | ⟨-, booting, recovers⟩
    exact booting.writes recovers.1
  have still : ∀ id state, world.journal.stateOf id = some state → state.isTransitional = true →
      system.world.journal.stateOf id = some state := by
    intro id state read transitional
    rcases moves id with same | ⟨other, nowMs, write, entered⟩
    · rw [← same]
      exact read
    · cases entered.symm.trans read
      cases transitional.symm.trans (writes id state nowMs write).2
  refine ⟨stage ▸ resuming.waiting, spawned.trans resuming.unspawned, fun id => ?_, fun opId => ?_,
    fun booting op member => resuming.quiet (stage ▸ booting) op (kept ▸ member),
    fun other part next rest located => ?_⟩
  · rcases moves id with same | ⟨state, nowMs, write, entered⟩
    · rw [same]
      exact resuming.instances id
    · obtain ⟨leads, rests⟩ := writes id state nowMs write
      rw [entered, leads, Option.map_some, settled_of_resting rests]
  · rw [← resuming.operations opId]
    simp only [Journal.operationState, Journal.getOperation, kept]
  · rw [noted]
    rcases located_set found located with ⟨rfl, written⟩ | ⟨same, located⟩
    · obtain rfl : part = role := congrArg Task.role written
      rw [Function.update_self]
      rcases acts with ⟨isPeer, -⟩ | ⟨boots, booting, recovers⟩
      · exact .inl isPeer
      · have early : act ≠ .journal .heldLeases := by
          rintro rfl
          exact recovers.1
        refine .inr ⟨boots, booting.snoc recovers
          (consistent_exec steady resuming.instances early executed) ?_ ?_ still⟩
        · rintro rows listing
          cases listing
          rcases query_cases executed with ⟨_, refused, -⟩ | ⟨_, _, answered, ran, rfl⟩
          · cases refused
          · cases ran
            cases answered
            rfl
        · rintro id state nowMs write left read
          cases write
          rcases query_cases executed with ⟨_, refused, -⟩ | ⟨_, _, -, ran, rfl⟩
          · cases refused
          · cases ran
            simp only [Journal.stateOf, Journal.setInstanceState,
              Journal.getInstance_updateInstance, if_true, Option.map_map,
              Option.map_eq_some_iff] at read
            obtain ⟨_, -, rfl⟩ := read
            rfl
    · rw [Function.update_of_ne same]
      exact (resuming.live other part next rest located).imp id fun boots =>
        ⟨boots.1, boots.2.moved still⟩

theorem resuming_crashed {traces : Nat → NodeTrace}
    (instances : ∀ id, (system.world.journal.stateOf id).map (settled answers id) = states id)
    (interrupts : ∀ opId, (system.world.journal.operationState opId).map interrupted =
      operations opId) :
    Resuming answers states operations
      ⟨system.world.afterCrash, system.tasks.map System.kill⟩ traces :=
  ⟨.inl rfl, rfl, instances, interrupts, nofun,
    fun _ _ _ _ located => .inl (killed_peer located)⟩

theorem Resuming.step (reached : System.reach agent etags labels = some system)
    (resuming : Resuming answers states operations system (System.traces agent etags labels))
    (stepped : System.next agent etags system label = some after)
    (restarting : Restarting answers system label after) : Resuming answers states operations after
      (System.traces agent etags (labels ++ [label])) := by
  rw [System.traces, observe_snoc reached stepped]
  change Resuming answers states operations after
    (System.tracesAfter etags system label (System.traces agent etags labels))
  have opened : ∀ {opIds : List String} (nowMs : Int),
      (∀ opId ∈ opIds, opId ∈ system.world.journal.openJournal.inFlightOps) →
      (∀ id, ((system.world.journal.openJournal.failOps restartMessage nowMs opIds).stateOf id).map
          (settled answers id) = states id) ∧
        ∀ opId, ((system.world.journal.openJournal.failOps restartMessage nowMs
          opIds).operationState opId).map interrupted = operations opId := by
    intro opIds nowMs listed
    refine ⟨fun id => ?_, fun opId => ?_⟩
    · rw [Journal.stateOf_of_instances ((Journal.failOps_frame ..).1.trans rfl)]
      exact resuming.instances id
    · rw [Journal.interrupted_failOps restartMessage nowMs listed]
      exact resuming.operations opId
  cases System.next_cases stepped with
  | deliver => exact resuming.deliver reached stepped restarting
  | launch found =>
    rw [resuming.unspawned] at found
    cases found
  | tick serving | invoke serving =>
    rcases resuming.waiting with down | booting
    · simp [System.serving, down] at serving
    · simp [System.serving, booting] at serving
  | @peer request =>
    refine ⟨resuming.waiting, resuming.unspawned, resuming.instances, resuming.operations,
      resuming.quiet, fun index role act continuation located => ?_⟩
    rcases located_append located with old | ⟨-, started⟩
    · exact resuming.live index role act continuation old
    · rw [show role = .peer request from congrArg Task.role started]
      exact .inl rfl
  | desire =>
    exact ⟨resuming.waiting, resuming.unspawned, resuming.instances, resuming.operations,
      resuming.quiet, resuming.live⟩
  | crash => exact resuming_crashed resuming.instances resuming.operations
  | @open_ completed nowMs down =>
    obtain ⟨instances, operations⟩ := opened nowMs fun _ => List.mem_of_mem_take
    refine ⟨resuming.waiting, resuming.unspawned, instances, operations, ?_, ?_⟩
    · intro booting
      cases down.symm.trans booting
    · intro index role act continuation located
      rcases reach_halted reached down _ (List.mem_of_getElem? located) with isPeer | returned
      · exact .inl isPeer
      · cases returned
  | @boot nowMs down =>
    obtain ⟨instances, operations⟩ := opened nowMs fun _ => id
    refine ⟨.inr rfl, rfl, instances, operations, fun _ => noneActive_booted _ _, ?_⟩
    intro index role act continuation located
    rcases located_append located with old | ⟨last, started⟩
    · exact .inl (killed_peer old)
    · rw [List.length_map] at last
      have unheard : System.tracesAfter etags system (.boot nowMs)
          (System.traces agent etags labels) index = [] :=
        (System.reach_residual reached).fresh index last.ge
      rw [unheard]
      exact .inr ⟨⟨_, congrArg Task.role started⟩, by simp, by simp [Listed]⟩

end Steps

/-! ### The end of a recovery -/

section Ends

variable {agent : Agent} {etags : LeaseVersioning} {labels : List Label}
  {system last : System} {operations : String → Option OperationState}

/-- The node crashed in `system`; it may have been started and have crashed again any number of
times since, but no boot has gone past its crash recovery. -/
def RestartedFrom (agent : Agent) (etags : LeaseVersioning)
    (answers : (call : RuntimeCall) → call.Answer) (system last : System) : Prop :=
  ∃ labels, run (System.next agent etags) system (.crash :: labels) = some last ∧
    Along (System.next agent etags) (Restarting answers) system (.crash :: labels)

def Journal.recoveredStates (journal : Journal) (answers : (call : RuntimeCall) → call.Answer)
    (id : String) : Option InstanceState :=
  (journal.stateOf id).map (settled answers id)

def Journal.recoveredOperations (journal : Journal) (opId : String) : Option OperationState :=
  (journal.operationState opId).map interrupted

theorem RestartedFrom.resuming (reached : System.reach agent etags labels = some system)
    (restarted : RestartedFrom agent etags answers system last) :
    ∃ labels, System.reach agent etags labels = some last ∧
      Resuming answers (system.world.journal.recoveredStates answers)
        system.world.journal.recoveredOperations last (System.traces agent etags labels) := by
  obtain ⟨later, ran, along⟩ := restarted
  obtain ⟨crashed, stepped, ran⟩ := run_cons ran
  obtain ⟨-, along⟩ := along.cons stepped
  refine along.invariant (I := fun current => ∃ labels, System.reach agent etags labels =
    some current ∧
      Resuming answers (system.world.journal.recoveredStates answers)
        system.world.journal.recoveredOperations current
        (System.traces agent etags labels)) ?_ ?_ ran
  · rintro current label after ⟨before, reachedCurrent, resuming⟩ taken restarting
    exact ⟨_, System.reach_snoc reachedCurrent taken, resuming.step reachedCurrent taken restarting⟩
  · refine ⟨_, System.reach_snoc reached stepped, ?_⟩
    cases stepped
    exact resuming_crashed (fun _ => rfl) fun _ => rfl

structure Settled (journal : Journal) : Prop where
  operations : ∀ op ∈ journal.operations.rows, op.state.isInFlight = false ∧
    op.executorActive = false
  instances : ∀ row ∈ journal.instances.rows, row.state.isTransitional = false

theorem Resuming.settled (reached : System.reach agent etags labels = some system)
    (resuming : Resuming answers states operations system (System.traces agent etags labels))
    (recovered : system.recovered = true) : Settled system.world.journal := by
  obtain ⟨task, member, ends⟩ := List.any_eq_true.mp recovered
  obtain ⟨failed, continuation, rfl⟩ : ∃ failed continuation,
      task = ⟨.boot failed, .step (.journal .heldLeases) continuation⟩ := by
    unfold atLeases at ends
    split at ends
    · exact ⟨_, _, rfl⟩
    · cases ends
  obtain ⟨index, found⟩ := List.getElem?_of_mem member
  obtain ⟨-, booting⟩ := (resuming.live index _ _ _ found).resolve_left Bool.false_ne_true
  have residual := System.next_residual reached found
  have complete : Recovered _ (.ok ()) :=
    (booting.recovers residual).elim (fun recovers => recovers.1.elim) And.right
  have stage : system.world.stage = .booting := by
    refine resuming.waiting.resolve_left fun down => ?_
    rcases reach_halted reached down _ member with isPeer | returned
    · cases isPeer
    · cases returned
  obtain ⟨claims, -⟩ := (reach_conduct reached).inv
  refine ⟨fun op listed => ?_, fun row listed => ?_⟩
  · have inactive := resuming.quiet stage op listed
    refine ⟨?_, inactive⟩
    by_contra inFlight
    rw [Bool.not_eq_false] at inFlight
    cases inactive.symm.trans (claims.owned.inFlight_active op listed inFlight)
  · by_contra transitional
    rw [Bool.not_eq_false] at transitional
    have read : system.world.journal.stateOf row.instanceId = some row.state := by
      simp [Journal.stateOf, Journal.getInstance_mem listed]
    obtain ⟨rows, heard, journaled⟩ := complete.journaled rfl
    obtain ⟨⟨other, inRows, named, moving⟩, unjournaled⟩ :=
      booting.pending rows heard row.instanceId row.state read transitional
    obtain ⟨state, written⟩ := journaled other inRows moving
    exact unjournaled state (named ▸ written)

theorem Resuming.ends
    (resuming : Resuming answers states operations system (System.traces agent etags labels))
    (settled : Settled system.world.journal) : (∀ id, system.world.journal.stateOf id = states id) ∧
      ∀ opId, system.world.journal.operationState opId = operations opId := by
  refine ⟨fun id => ?_, fun opId => ?_⟩
  · rw [← resuming.instances id]
    cases found : system.world.journal.getInstance id with
    | none => simp [Journal.stateOf, found]
    | some row =>
      have rests := settled.instances row (Table.mem_of_find? found).1
      simp [Journal.stateOf, found, settled_of_resting rests]
  · rw [← resuming.operations opId]
    cases found : system.world.journal.getOperation opId with
    | none => simp [Journal.operationState, found]
    | some op =>
      have resting := (settled.operations op (Table.mem_of_find? found).1).1
      simp [Journal.operationState, found, interrupted_of_settled resting]

/-! ### Recovery comes to its end -/

def Unrefused (exchange : Exchange NodeSig) : Prop :=
  ∀ query cause, exchange ≠ ⟨.journal query, .error cause⟩

abbrev Completes (history : NodeTrace) (program : NodeProg (Except String Unit)) : Prop :=
  Heeds Unrefused (fun _ _ => True) (fun _ outcome => outcome = .ok ()) history program

theorem completes_query {history : NodeTrace} {query : Query} :
    Heeds Unrefused (fun _ _ => True) (fun _ outcome => ∃ answer, outcome = .ok answer) history
      (Node.query query) := by
  refine ⟨trivial, fun answer answered => ?_⟩
  cases answer with
  | error cause => exact absurd rfl (answered query cause)
  | ok answer => exact ⟨answer, rfl⟩

theorem completes_settleInstance (history : NodeTrace) (id : String)
    (state : InstanceState) : Completes history (resolveInstance.settleInstance id state) := by
  have written : Completes history (Node.setInstanceState id state) := by
    refine completes_query.bind ?_
    rintro early - ⟨nowMs, rfl⟩
    dsimp only
    split
    · exact completes_query.mono (fun _ _ holds => holds) fun _ _ ⟨_, same⟩ => same
    split
    · exact completes_query.mono (fun _ _ holds => holds) fun _ _ ⟨_, same⟩ => same
    · rfl
  refine written.bind ?_
  rintro early - rfl
  exact ⟨trivial, fun _ _ => rfl⟩

theorem completes_resolveInstance (history : NodeTrace) (row : InstanceRow) :
    Completes history (resolveInstance row) := by
  unfold resolveInstance
  dsimp only
  split
  · refine ⟨trivial, fun answer _ => ?_⟩
    cases answer with
    | ok => exact completes_settleInstance ..
    | error cause => exact ⟨trivial, fun _ _ => completes_settleInstance ..⟩
  · refine (completes_settleInstance ..).bind ?_
    rintro early - rfl
    exact ⟨trivial, fun _ _ => rfl⟩
  · exact ⟨trivial, fun _ _ => completes_settleInstance ..⟩
  · exact ⟨trivial, fun _ _ => completes_settleInstance ..⟩

theorem completes_resolveInstances (history : NodeTrace) (rows : List InstanceRow) :
    Completes history (resolveInstances rows) := by
  induction rows generalizing history with
  | nil => rfl
  | cons row rest ih =>
    refine (completes_resolveInstance history row).bind ?_
    rintro early - rfl
    exact ih early

theorem completes_recoverOps (failed : List OperationRow) : Completes [] (recoverOps failed) := by
  refine Heeds.bind (Heeds.of_emits (announceFailed_emits failed) fun _ _ _ _ => trivial) ?_
  rintro early - -
  refine completes_query.bind ?_
  rintro later - ⟨rows, rfl⟩
  exact completes_resolveInstances later _

theorem boot_continues {failed : List OperationRow}
    (ran : After (boot agent failed) trace (.pure ()))
    (answered : ∀ exchange ∈ trace, Unrefused exchange) :
    ∃ answer, ⟨.journal .heldLeases, answer⟩ ∈ trace := by
  have heeds : Heeds Unrefused (fun _ _ => True) (fun history _ =>
      ∃ answer, ⟨.journal .heldLeases, answer⟩ ∈ history) [] (boot agent failed) := by
    refine (completes_recoverOps failed).bind ?_
    rintro early - rfl
    refine ⟨trivial, fun answer _ => (Heeds.grows _ _).mono (fun _ _ _ => trivial) ?_⟩
    rintro last - ⟨later, rfl, -⟩
    exact ⟨answer, by simp⟩
  exact heeds.after ran answered

theorem recovery_total (etags : LeaseVersioning) (index : Nat) (before : World)
    {act : NodeAct} {choice : Choice} {history : NodeTrace} (resolves : Resolves history act)
    (reachable : choice.journalError = none) :
    ∃ answer later, (nodeMachine etags).exec index act choice before = some (answer, later) ∧
      Unrefused ⟨act, answer⟩ := by
  cases act with
  | journal query =>
    simp only [nodeMachine, World.exec, World.query, reachable]
    cases query with
    | setInstanceState | listInstances | insertEvent | setRunEpoch | forgetCredentials =>
      refine ⟨_, _, rfl, ?_⟩
      rintro other cause ⟨⟩
    | _ => exact resolves.elim
  | runtime call =>
    refine ⟨_, _, rfl, ?_⟩
    rintro other cause ⟨⟩
  | _ => exact resolves.elim

def deliveries (index : Nat) (choices : Nat → Choice) (count : Nat) : List Label :=
  (List.range count).map fun step => .deliver index (choices step)

theorem deliveries_succ (index : Nat) (choices : Nat → Choice) (count : Nat) :
    deliveries index choices (count + 1) =
      .deliver index (choices 0) :: deliveries index (fun step => choices (step + 1)) count := by
  simp [deliveries, List.range_succ_eq_map, Function.comp_def]

theorem recovery_returns {index : Nat} {failed : List OperationRow} (program : NodeProg Unit)
    {choices : Nat → Choice}
    (steady : ∀ step, (choices step).runtime = answers ∧ (choices step).journalError = none)
    (reached : System.reach agent etags labels = some system)
    (resuming : Resuming answers states operations system (System.traces agent etags labels))
    (found : system.tasks[index]? = some ⟨.boot failed, program⟩)
    (residual : After (boot agent failed) (System.traces agent etags labels index) program)
    (unrefused : ∀ exchange ∈ System.traces agent etags labels index,
      Unrefused exchange ∧ exchange.act ≠ .journal .heldLeases) :
    ∃ count last, run (System.next agent etags) system
      (deliveries index choices count) = some last ∧
      Along (System.next agent etags) (Restarting answers) system (deliveries index choices count) ∧
      last.recovered = true := by
  induction program generalizing choices labels system with
  | pure value =>
    obtain ⟨answer, member⟩ := boot_continues residual fun exchange member =>
      (unrefused exchange member).1
    exact absurd rfl (unrefused _ member).2
  | step act next ih =>
    obtain ⟨-, booting⟩ := (resuming.live index _ _ _ found).resolve_left Bool.false_ne_true
    rcases booting.recovers residual with recovers | ⟨rfl, -⟩
    · obtain ⟨answer, world, executed, answered⟩ :=
        recovery_total etags index system.world recovers.1 (steady 0).2
      have early : act ≠ .journal .heldLeases := by
        rintro rfl
        exact recovers.1
      have stepped : System.next agent etags system (.deliver index (choices 0)) =
          some ⟨world, system.tasks.set index ⟨.boot failed, next answer⟩⟩ := by
        simp only [System.next, Pool.step, found, executed]
      have restarting : Restarting answers system (.deliver index (choices 0))
          ⟨world, system.tasks.set index ⟨.boot failed, next answer⟩⟩ := by
        refine ⟨(steady 0).1, ?_⟩
        rw [found, Option.any_some]
        unfold atLeases
        split
        · next same =>
            cases same
            exact absurd rfl early
        · rfl
      have noted : System.traces agent etags (labels ++ [.deliver index (choices 0)]) index =
          System.traces agent etags labels index ++ [⟨act, answer⟩] := by
        rw [System.traces, observe_snoc reached stepped]
        simp [System.tracesAfter, System.exchanged, found, executed, System.traces]
      obtain ⟨count, last, ran, along, recovered⟩ := ih answer
        (fun step => steady (step + 1)) (System.reach_snoc reached stepped)
        (resuming.step reached stepped restarting)
        (List.getElem?_set_self (List.getElem?_eq_some_iff.mp found).1)
        (noted ▸ residual.snoc answer) (by
          rw [noted, List.forall_mem_append]
          exact ⟨unrefused, by simpa using ⟨answered, early⟩⟩)
      refine ⟨count + 1, last, ?_, ?_, recovered⟩
      · rw [deliveries_succ, run, stepped]
        exact ran
      · rw [deliveries_succ, Along, stepped]
        exact ⟨restarting, along⟩
    · refine ⟨0, system, rfl, trivial, ?_⟩
      exact List.any_eq_true.mpr ⟨_, List.mem_of_getElem? found, rfl⟩

theorem RestartedFrom.extend {middle : System} {more : List Label}
    (restarted : RestartedFrom agent etags answers system middle)
    (ran : run (System.next agent etags) middle more = some last)
    (along : Along (System.next agent etags) (Restarting answers) middle more) :
    RestartedFrom agent etags answers system last := by
  obtain ⟨labels, reached, early⟩ := restarted
  refine ⟨labels ++ more, ?_, early.join reached along⟩
  rw [← List.cons_append, run_append, reached]
  exact ran

theorem boot_starts (agent : Agent) (etags : LeaseVersioning) (system : System)
    (down : system.world.stage = .down) (nowMs : Int) :
    ∃ started failed, System.next agent etags system (.boot nowMs) = some started ∧
      started.tasks[system.tasks.length]? = some ⟨.boot failed, boot agent failed⟩ := by
  simp only [System.next, if_pos down]
  refine ⟨_, system.world.journal.openJournal.operations.rows.filter Journal.inFlight, rfl, ?_⟩
  simp only [System.begin_, Pool.spawn]
  rw [List.getElem?_append_right (by simp), List.length_map, Nat.sub_self]
  rfl

/-- **Crash recovery comes to its end** from wherever a crash has cut it short. -/
theorem RestartedFrom.recovers {cut : System}
    (reached : System.reach agent etags labels = some system)
    (restarted : RestartedFrom agent etags answers system cut) (nowMs : Int)
    {choices : Nat → Choice}
    (steady : ∀ step, (choices step).runtime = answers ∧ (choices step).journalError = none) :
    ∃ count last, run (System.next agent etags) cut
        (.crash :: .boot nowMs :: deliveries cut.tasks.length choices count) = some last ∧
      RestartedFrom agent etags answers system last ∧ last.recovered = true := by
  obtain ⟨before, reachedCut, resuming⟩ := restarted.resuming reached
  have crashes : System.next agent etags cut .crash =
      some ⟨cut.world.afterCrash, cut.tasks.map System.kill⟩ := rfl
  have reachedCrash := System.reach_snoc reachedCut crashes
  have resumed := resuming.step reachedCut crashes trivial
  obtain ⟨started, failed, boots, found⟩ := boot_starts agent etags
    ⟨cut.world.afterCrash, cut.tasks.map System.kill⟩ rfl nowMs
  rw [List.length_map] at found
  have unheard : System.traces agent etags (before ++ [.crash] ++ [.boot nowMs])
      cut.tasks.length = [] := by
    rw [System.traces, observe_snoc reachedCrash boots]
    exact (System.reach_residual reachedCrash).fresh _ (by simp)
  obtain ⟨count, last, ran, along, recovered⟩ := recovery_returns _ steady
    (System.reach_snoc reachedCrash boots) (resumed.step reachedCrash boots trivial) found
    (by rw [unheard]; exact .refl _) (by rw [unheard]; simp)
  have ranAll : run (System.next agent etags) cut
      (.crash :: .boot nowMs :: deliveries cut.tasks.length choices count) = some last := by
    rw [run, crashes, Option.bind_some, run, boots]
    exact ran
  refine ⟨count, last, ranAll, restarted.extend ranAll ?_, recovered⟩
  rw [Along, crashes]
  refine ⟨trivial, ?_⟩
  rw [Along, boots]
  exact ⟨trivial, along⟩

end Ends

/-- **Crash recovery is crash-idempotent.** The node crashed in any reachable state, and the
substrate answers each call the same way in every recovery. However often recovery has been cut
short, it can be run to its end; every recovery that gets there, interrupted or not, leaves the
same states; and it leaves nothing in flight, claimed or in transition. -/
theorem recovery_crash_idempotent (agent : Agent) (etags : LeaseVersioning)
    (labels : List Label) (system : System)
    (reached : System.reach agent etags labels = some system)
    (answers : (call : RuntimeCall) → call.Answer) :
    (∀ cut, RestartedFrom agent etags answers system cut →
      ∀ (nowMs : Int) (choices : Nat → Choice),
        (∀ step, (choices step).runtime = answers ∧ (choices step).journalError = none) →
        ∃ count last, run (System.next agent etags) cut
            (.crash :: .boot nowMs :: deliveries cut.tasks.length choices count) = some last ∧
          RestartedFrom agent etags answers system last ∧ last.recovered = true) ∧
      (∀ left right, RestartedFrom agent etags answers system left →
        RestartedFrom agent etags answers system right →
        left.recovered = true → right.recovered = true →
          (∀ opId, left.world.journal.operationState opId =
            right.world.journal.operationState opId) ∧
          ∀ id, left.world.journal.stateOf id = right.world.journal.stateOf id) ∧
      ∀ last, RestartedFrom agent etags answers system last → last.recovered = true →
        Settled last.world.journal := by
  refine ⟨fun cut restarted nowMs choices steady => restarted.recovers reached nowMs steady,
    fun left right fromLeft fromRight leftRecovered rightRecovered => ?_,
    fun last restarted recovered => ?_⟩
  · obtain ⟨_, reachedLeft, resumingLeft⟩ := fromLeft.resuming reached
    obtain ⟨_, reachedRight, resumingRight⟩ := fromRight.resuming reached
    obtain ⟨instancesLeft, operationsLeft⟩ :=
      resumingLeft.ends (resumingLeft.settled reachedLeft leftRecovered)
    obtain ⟨instancesRight, operationsRight⟩ :=
      resumingRight.ends (resumingRight.settled reachedRight rightRecovered)
    exact ⟨fun opId => (operationsLeft opId).trans (operationsRight opId).symm,
      fun id => (instancesLeft id).trans (instancesRight id).symm⟩
  · obtain ⟨_, reachedLast, resuming⟩ := restarted.resuming reached
    exact resuming.settled reachedLast recovered

/-- A step by which a boot goes on past its crash recovery. -/
def System.leavesRecovery (system : System) : Label → Bool
  | .deliver index _ => (system.tasks[index]?).any atLeases
  | _ => false

/-- The node comes up and dies after its recovery has failed the operation in flight, and before
it has settled the instance. -/
def cutShort : List Label := .crash :: .boot 0 :: deliveries 6 (.calm 0) 3

/-- A node dies while an instance is being destroyed. Its recovery, cut short between two of its
writes and then run to its end, leaves what an uninterrupted one leaves. -/
theorem recovery_crash_idempotent_destroying :
    ∃ system cut interrupted uninterrupted,
      System.reach .plain freshVersions destroyingSession = some system ∧
      run (System.next .plain freshVersions) system cutShort = some cut ∧
      cut.world.journal.operationState (ulidOf 56) = some .failed ∧
      cut.world.journal.stateOf ulid = some .destroying ∧
      (∃ count, run (System.next .plain freshVersions) cut
        (.crash :: .boot 0 :: deliveries cut.tasks.length (.calm 0) count) = some interrupted) ∧
      (∃ count, run (System.next .plain freshVersions) system (.crash :: .crash :: .boot 0 ::
        deliveries system.tasks.length (.calm 0) count) = some uninterrupted) ∧
      interrupted.recovered = true ∧ uninterrupted.recovered = true ∧
      (∀ id, interrupted.world.journal.stateOf id = uninterrupted.world.journal.stateOf id) ∧
      Settled interrupted.world.journal := by
  have reachable : ((System.reach .plain freshVersions destroyingSession).any fun system =>
      Along (System.next .plain freshVersions) (fun before label _ =>
        before.leavesRecovery label = false) system cutShort ∧
      (run (System.next .plain freshVersions) system cutShort).any fun cut =>
        cut.world.journal.operationState (ulidOf 56) = some .failed ∧
        cut.world.journal.stateOf ulid = some .destroying) = true := by decide +kernel
  obtain ⟨system, reached, early, facts⟩ := exists_of_any reachable
  obtain ⟨cut, ran, failed, destroying⟩ := exists_of_any facts
  have steady : Along (System.next .plain freshVersions) (Restarting RuntimeCall.succeed) system
      cutShort := by
    refine ((Along.of_labels (P := fun _ label _ => ∀ index choice, label = .deliver index choice →
      choice.runtime = RuntimeCall.succeed) ?_).and early).mono ?_
    · intro label member _ _ index choice isDeliver
      subst isDeliver
      simp only [cutShort, deliveries, List.mem_cons, List.mem_map, reduceCtorEq,
        false_or] at member
      obtain ⟨step, -, same⟩ := member
      cases same
      rfl
    · rintro before label after - ⟨calm, inside⟩
      cases label with
      | deliver index choice => exact ⟨calm index choice rfl, inside⟩
      | _ => trivial
  obtain ⟨recovers, agree, settles⟩ := recovery_crash_idempotent .plain freshVersions
    destroyingSession system reached RuntimeCall.succeed
  have crashed : RestartedFrom .plain freshVersions RuntimeCall.succeed system
      ⟨system.world.afterCrash, system.tasks.map System.kill⟩ := ⟨[], rfl, trivial, trivial⟩
  obtain ⟨count, interrupted, finishes, restarted, recovered⟩ :=
    recovers cut ⟨_, ran, steady⟩ 0 (.calm 0) fun step => ⟨rfl, rfl⟩
  obtain ⟨whole, uninterrupted, ends, restartedOnce, recoveredOnce⟩ :=
    recovers _ crashed 0 (.calm 0) fun step => ⟨rfl, rfl⟩
  refine ⟨system, cut, interrupted, uninterrupted, reached, ran, failed, destroying,
    ⟨count, finishes⟩, ⟨whole, ?_⟩, recovered, recoveredOnce,
    (agree _ _ restarted restartedOnce recovered recoveredOnce).2, settles _ restarted recovered⟩
  rw [List.length_map] at ends
  exact ends

end Barista.Node
