import Barista.Foundation.History
import Barista.Node.Entrances

/-!
Contract: what crash recovery does, whatever the journal holds and the substrate answers.

Owns: the order of recovery's actions, what each of them rests on, and which of the states it
journals it has reached.
-/

namespace Barista.Node

open Foundation Fleet
open Prog (Heeds After Ran)

/-! ### The history of a recovery -/

def Listed (history : NodeTrace) (rows : List InstanceRow) : Prop :=
  ⟨.journal .listInstances, .ok rows⟩ ∈ history

def Journaled (history : NodeTrace) (id : String) (state : InstanceState) : Prop :=
  ∃ nowMs, ⟨.journal (.setInstanceState id state), .ok nowMs⟩ ∈ history

/-- The substrate's answer to the stop, or else the removal, of an instance's sandbox. -/
def sandboxExchange (row : InstanceRow) (answer : Except RuntimeError Unit) : Exchange NodeSig :=
  if row.state = .stopping then ⟨.runtime (.stop row.instanceId 0), answer⟩
  else ⟨.runtime (.removeOrphan row.instanceId), answer⟩

def Succeeded (history : NodeTrace) (row : InstanceRow) : Prop :=
  sandboxExchange row (.ok ()) ∈ history

def Refused (history : NodeTrace) (row : InstanceRow) : Prop :=
  ∃ cause, sandboxExchange row (.error cause) ∈ history

/-- Where recovery takes an instance it found in transition. -/
def Verdict (history : NodeTrace) (row : InstanceRow) (state : InstanceState) : Prop :=
  match row.state with
  | .stopping => (Succeeded history row ∧ state = .stopped) ∨
      (Refused history row ∧ state = .failed)
  | .checkpointing => state = .running
  | .destroying => (Succeeded history row ∨ Refused history row) ∧ state = .destroyed
  | _ => state = .failed

/-- The write of `destroyed` was the last thing to happen: its scrub is still to come. -/
def Unscrubbed (history : NodeTrace) (id : String) : Prop :=
  ∃ nowMs, history.getLast? = some ⟨.journal (.setInstanceState id .destroyed), .ok nowMs⟩

def Resolves (history : NodeTrace) : NodeAct → Prop
  | .journal (.setInstanceState id state) => ∃ rows row, Listed history rows ∧ row ∈ rows ∧
      row.state.isTransitional = true ∧ row.instanceId = id ∧ Verdict history row state
  | .journal .listInstances =>
    ∀ exchange ∈ history, ∃ event, exchange.act = .journal (.insertEvent event)
  | .runtime call => ∀ exchange ∈ history, exchange.act ≠ .runtime call
  | .journal (.insertEvent _) | .journal (.setRunEpoch ..) | .journal (.forgetCredentials _) => True
  | _ => False

def Recovers (history : NodeTrace) (act : NodeAct) : Prop :=
  Resolves history act ∧ ∀ id, Unscrubbed history id → act = .journal (.forgetCredentials id)

def ListsDistinctly (exchange : Exchange NodeSig) : Prop :=
  ∀ rows, exchange = ⟨.journal .listInstances, .ok rows⟩ → (rows.map InstanceRow.instanceId).Nodup

def NodeAct.subject : NodeAct → Option String
  | .runtime (.stop id _) | .runtime (.removeOrphan id) | .journal (.setInstanceState id _)
  | .journal (.setRunEpoch id _) | .journal (.forgetCredentials id) => some id
  | _ => none

variable {history later : NodeTrace} {id : String} {state : InstanceState}
  {row : InstanceRow}

variable {exchange : Exchange NodeSig}

theorem unscrubbed_snoc : Unscrubbed (history ++ [exchange]) id ↔
      ∃ nowMs, exchange = ⟨.journal (.setInstanceState id .destroyed), .ok nowMs⟩ := by
  simp [Unscrubbed]

theorem exec_listsDistinctly {etags : LeaseVersioning} {index : Nat}
    {act : NodeAct} {choice : Choice} {before after : World} {answer : NodeSig.Ans act}
    (executed : (nodeMachine etags).exec index act choice before = some (answer, after)) :
    ListsDistinctly ⟨act, answer⟩ := by
  intro rows listing
  cases listing
  rcases query_cases executed with ⟨_, refused, -⟩ | ⟨result, _, answered, ran, -⟩
  · cases refused
  · cases ran
    cases answered
    exact listInstances_distinct _

theorem Listed.append {rows : List InstanceRow} (listed : Listed history rows) :
    Listed (history ++ later) rows :=
  List.mem_append_left _ listed

theorem Journaled.append (journaled : Journaled history id state) :
    Journaled (history ++ later) id state :=
  journaled.imp fun _ => List.mem_append_left _

theorem Succeeded.append (succeeded : Succeeded history row) : Succeeded (history ++ later) row :=
  List.mem_append_left _ succeeded

theorem Refused.append (refused : Refused history row) : Refused (history ++ later) row :=
  refused.imp fun _ => List.mem_append_left _

theorem Verdict.append (verdict : Verdict history row state) :
    Verdict (history ++ later) row state := by
  unfold Verdict at verdict ⊢
  split at verdict
  · exact verdict.imp (fun settled => ⟨settled.1.append, settled.2⟩)
      fun settled => ⟨settled.1.append, settled.2⟩
  · exact verdict
  · exact ⟨verdict.1.imp Succeeded.append Refused.append, verdict.2⟩
  · exact verdict

/-! ### Resolving one instance -/

/-- A history goes on with actions about one instance only. -/
def Continues (history : NodeTrace) (id : String) (last : NodeTrace) :
    Prop :=
  ∃ later, last = history ++ later ∧
    ∀ exchange ∈ later, exchange.act.subject = none ∨ exchange.act.subject = some id

theorem Continues.refl : Continues history id history := ⟨[], by simp, by simp⟩

theorem Continues.snoc {early : NodeTrace} (continues : Continues history id early)
    (subject : exchange.act.subject = none ∨ exchange.act.subject = some id) :
    Continues history id (early ++ [exchange]) := by
  obtain ⟨later, rfl, subjects⟩ := continues
  refine ⟨later ++ [exchange], by simp, ?_⟩
  rw [List.forall_mem_append]
  exact ⟨subjects, by simpa using subject⟩

/-- What is known when an instance has been dealt with. -/
structure Dealt (history : NodeTrace) (id : String) (last : NodeTrace)
    (outcome : Except String Unit) : Prop where
  continues : Continues history id last
  scrubbed : ∀ other, ¬ Unscrubbed last other
  journaled : outcome = .ok () → ∃ state, Journaled last id state

theorem scrubbed_snoc
    (plain : ∀ other nowMs, exchange ≠ ⟨.journal (.setInstanceState other .destroyed), .ok nowMs⟩)
    (other : String) : ¬ Unscrubbed (history ++ [exchange]) other := by
  rw [unscrubbed_snoc]
  rintro ⟨nowMs, same⟩
  exact plain other nowMs same

theorem recovers_scrubbed {act : NodeAct} (resolves : Resolves history act)
    (scrubbed : ∀ other, ¬ Unscrubbed history other) : Recovers history act :=
  ⟨resolves, fun other unscrubbed => absurd unscrubbed (scrubbed other)⟩

variable {A : Exchange NodeSig → Prop}

theorem heeds_record {base : NodeTrace} (event : EventRow)
    (continues : Continues base id history) (scrubbed : ∀ other, ¬ Unscrubbed history other)
    (journaled : ∃ state, Journaled history id state) :
    Heeds A Recovers (fun last _ => Dealt base id last (.ok ())) history (Events.record event) := by
  refine ⟨recovers_scrubbed trivial scrubbed, fun answer _ => ?_⟩
  refine ⟨continues.snoc (.inl rfl), scrubbed_snoc ?_, fun _ => journaled.imp fun _ => .append⟩
  rintro other nowMs ⟨⟩

theorem heeds_settleInstance {base : NodeTrace} (continues : Continues base id history)
    (resolves : Resolves history (.journal (.setInstanceState id state)))
    (scrubbed : ∀ other, ¬ Unscrubbed history other) :
    Heeds A Recovers (Dealt base id) history (resolveInstance.settleInstance id state) := by
  -- Once the state is journaled, what is left is at most one more column and the event.
  have announced {early : NodeTrace} (continues : Continues base id early)
      (scrubbed : ∀ other, ¬ Unscrubbed early other)
      (journaled : ∃ state, Journaled early id state) :
      Heeds A Recovers (Dealt base id) early
        ((Events.stateChanged id "" state none).bind fun _ => .pure (.ok ())) :=
    (heeds_record _ continues scrubbed journaled).bind fun _ _ dealt => dealt
  refine ⟨recovers_scrubbed resolves scrubbed, fun written _ => ?_⟩
  cases written with
  | error cause =>
    refine ⟨continues.snoc (.inr rfl), scrubbed_snoc ?_, nofun⟩
    rintro other nowMs ⟨⟩
  | ok nowMs =>
    have continues : Continues base id
      (history ++ [⟨.journal (.setInstanceState id state), .ok nowMs⟩]) :=
      continues.snoc (.inr rfl)
    have journaled : ∃ state', Journaled
        (history ++ [⟨.journal (.setInstanceState id state), .ok nowMs⟩]) id state' :=
      ⟨state, nowMs, List.mem_append_right _ List.mem_cons_self⟩
    -- One more column: its answer ends the call, or the event follows.
    have settled (exchange : Exchange NodeSig) (subject : exchange.act.subject = some id)
        (plain : ∀ other nowMs, exchange ≠ ⟨.journal (.setInstanceState other .destroyed),
        .ok nowMs⟩) :=
      And.intro (fun cause => show Heeds A Recovers (Dealt base id) (_ ++ [exchange])
        (.pure (.error cause)) from ⟨continues.snoc (.inr subject), scrubbed_snoc plain, nofun⟩)
        (announced (continues.snoc (.inr subject)) (scrubbed_snoc plain)
          (journaled.imp fun _ => .append))
    by_cases running : state = .running
    · subst running
      refine ⟨recovers_scrubbed trivial (scrubbed_snoc (by rintro other nowMs ⟨⟩)),
        fun answer _ => ?_⟩
      have after := settled ⟨.journal (.setRunEpoch id nowMs), answer⟩ rfl
        (by rintro other nowMs ⟨⟩)
      cases answer with
      | error cause => exact after.1 cause
      | ok => exact after.2
    by_cases destroyed : state = .destroyed
    · subst destroyed
      refine ⟨⟨trivial, fun other unscrubbed => ?_⟩, fun answer _ => ?_⟩
      · obtain ⟨_, same⟩ := unscrubbed_snoc.mp unscrubbed
        cases same
        rfl
      · have after := settled ⟨.journal (.forgetCredentials id), answer⟩ rfl
          (by rintro other nowMs ⟨⟩)
        cases answer with
        | error cause => exact after.1 cause
        | ok => exact after.2
    · dsimp only [Prog.pure_bind]
      rw [if_neg running, if_neg destroyed]
      refine announced continues (scrubbed_snoc ?_) journaled
      rintro other nowMs ⟨⟩
      exact destroyed rfl

structure Pending (history : NodeTrace) (row : InstanceRow) : Prop where
  listed : ∃ rows, Listed history rows ∧ row ∈ rows
  transitional : row.state.isTransitional = true
  fresh : ∀ exchange ∈ history, exchange.act.subject ≠ some row.instanceId

theorem Pending.resolves (pending : Pending history row)
    (verdict : Verdict (history ++ later) row state) :
    Resolves (history ++ later) (.journal (.setInstanceState row.instanceId state)) := by
  obtain ⟨rows, listed, member⟩ := pending.listed
  exact ⟨rows, row, listed.append, member, pending.transitional, rfl, verdict⟩

theorem Pending.calls (pending : Pending history row) {call : RuntimeCall}
    (about : (NodeAct.runtime call).subject = some row.instanceId) :
    Resolves history (.runtime call) := by
  intro exchange member same
  exact pending.fresh exchange member (same ▸ about)

theorem heeds_resolveInstance (pending : Pending history row)
    (scrubbed : ∀ other, ¬ Unscrubbed history other) :
    Heeds A Recovers (Dealt history row.instanceId) history (resolveInstance row) := by
  have settle {state : InstanceState} {exchange : Exchange NodeSig}
      (subject : exchange.act.subject = some row.instanceId)
      (plain : ∀ other nowMs, exchange ≠ ⟨.journal (.setInstanceState other .destroyed), .ok nowMs⟩)
      (verdict : Verdict (history ++ [exchange]) row state) :
      Heeds A Recovers (Dealt history row.instanceId) (history ++ [exchange])
        (resolveInstance.settleInstance row.instanceId state) :=
    heeds_settleInstance (Continues.refl.snoc (.inr subject)) (pending.resolves verdict)
      (scrubbed_snoc plain)
  unfold resolveInstance
  dsimp only
  split
  · next isStopping =>
      refine ⟨recovers_scrubbed (pending.calls rfl) scrubbed, fun answer _ => ?_⟩
      cases answer with
      | ok =>
        refine settle rfl (by rintro other nowMs ⟨⟩) ?_
        simp [Verdict, isStopping, Succeeded, sandboxExchange]
      | error cause =>
        have refused : Refused (history ++ [⟨.runtime (.stop row.instanceId 0), .error cause⟩])
          row :=
          ⟨cause, by simp [sandboxExchange, isStopping]⟩
        refine ⟨recovers_scrubbed trivial (scrubbed_snoc (by rintro other nowMs ⟨⟩)),
          fun answer _ => ?_⟩
        refine heeds_settleInstance ((Continues.refl.snoc (.inr rfl)).snoc (.inl rfl)) ?_
          (scrubbed_snoc (by rintro other nowMs ⟨⟩))
        rw [List.append_assoc]
        refine pending.resolves ?_
        rw [← List.append_assoc]
        simp only [Verdict, isStopping]
        exact .inr ⟨refused.append, trivial⟩
  · next isCheckpointing =>
      have resolves : Resolves history (.journal (.setInstanceState row.instanceId .running)) := by
        have here : Resolves (history ++ [])
          (.journal (.setInstanceState row.instanceId .running)) :=
          pending.resolves (by simp [Verdict, isCheckpointing])
        rwa [List.append_nil] at here
      refine (heeds_settleInstance Continues.refl resolves scrubbed).bind
        fun last outcome dealt => ?_
      cases outcome with
      | error cause => exact dealt
      | ok =>
        exact (heeds_record _ dealt.continues dealt.scrubbed (dealt.journaled rfl)).bind
          fun _ _ dealt => dealt
  · next isDestroying =>
      refine ⟨recovers_scrubbed (pending.calls rfl) scrubbed, fun answer _ => ?_⟩
      refine settle rfl (by rintro other nowMs ⟨⟩) ?_
      simp only [Verdict, isDestroying, and_true]
      cases answer with
      | ok => exact .inl (by simp [Succeeded, sandboxExchange, isDestroying])
      | error cause => exact .inr ⟨cause, by simp [sandboxExchange, isDestroying]⟩
  · next notStopping notCheckpointing notDestroying =>
      refine ⟨recovers_scrubbed (pending.calls rfl) scrubbed, fun answer _ => ?_⟩
      refine settle rfl (by rintro other nowMs ⟨⟩) ?_
      unfold Verdict
      split
      · next isStopping => exact absurd isStopping notStopping
      · next isCheckpointing => exact absurd isCheckpointing notCheckpointing
      · next isDestroying => exact absurd isDestroying notDestroying
      · rfl

/-! ### Resolving them all -/

/-- What is known when every row of a list has been dealt with. -/
structure AllDealt (history : NodeTrace) (rows : List InstanceRow)
    (last : NodeTrace) (outcome : Except String Unit) : Prop where
  extends_ : ∃ later, last = history ++ later
  scrubbed : ∀ other, ¬ Unscrubbed last other
  journaled : outcome = .ok () → ∀ row ∈ rows, ∃ state, Journaled last row.instanceId state

theorem Pending.continue {other : InstanceRow} {last : NodeTrace}
    (pending : Pending history row) (continues : Continues history other.instanceId last)
    (distinct : row.instanceId ≠ other.instanceId) : Pending last row := by
  obtain ⟨later, rfl, subjects⟩ := continues
  obtain ⟨rows, listed, member⟩ := pending.listed
  refine ⟨⟨rows, listed.append, member⟩, pending.transitional, ?_⟩
  rw [List.forall_mem_append]
  refine ⟨pending.fresh, fun exchange inLater about => ?_⟩
  rcases subjects exchange inLater with none | elsewhere
  · rw [about] at none
    cases none
  · rw [about] at elsewhere
    exact distinct (Option.some.inj elsewhere)

theorem heeds_resolveInstances {rows : List InstanceRow}
    (pending : ∀ row ∈ rows, Pending history row)
    (distinct : (rows.map InstanceRow.instanceId).Nodup)
    (scrubbed : ∀ other, ¬ Unscrubbed history other) :
    Heeds A Recovers (AllDealt history rows) history (resolveInstances rows) := by
  induction rows generalizing history with
  | nil => exact ⟨⟨[], by simp⟩, scrubbed, fun _ => by simp⟩
  | cons row rest ih =>
    obtain ⟨first, others⟩ := List.forall_mem_cons.mp pending
    obtain ⟨absent, distinct⟩ := List.nodup_cons.mp distinct
    refine (heeds_resolveInstance first scrubbed).bind fun last outcome dealt => ?_
    obtain ⟨later, same, -⟩ := dealt.continues
    cases outcome with
    | error cause => exact ⟨⟨later, same⟩, dealt.scrubbed, nofun⟩
    | ok =>
      have stillPending : ∀ other ∈ rest, Pending last other := by
        intro other member
        refine (others other member).continue dealt.continues fun sameId => absent ?_
        rw [← sameId]
        exact List.mem_map_of_mem member
      refine (ih stillPending distinct dealt.scrubbed).mono (fun _ _ => id) ?_
      rintro final outcome ⟨⟨further, rfl⟩, scrubbed, journaled⟩
      refine ⟨⟨later ++ further, by rw [same, List.append_assoc]⟩, scrubbed, fun completed => ?_⟩
      rw [List.forall_mem_cons]
      refine ⟨?_, journaled completed⟩
      exact (dealt.journaled rfl).imp fun _ => .append

structure Recovered (history : NodeTrace) (outcome : Except String Unit) : Prop where
  scrubbed : ∀ other, ¬ Unscrubbed history other
  journaled : outcome = .ok () → ∃ rows, Listed history rows ∧
    ∀ row ∈ rows, row.state.isTransitional = true → ∃ state, Journaled history row.instanceId state

theorem announceFailed_emits (failed : List OperationRow) :
    (announceFailed failed).Emits fun act : NodeAct => ∃ event, act = .journal
      (.insertEvent event) := by
  induction failed with
  | nil => trivial
  | cons op rest ih =>
    exact Prog.Emits.bind ⟨⟨_, rfl⟩, fun _ => trivial⟩ fun _ => ih

/-- **Every action of crash recovery rests on what recovery has heard.** -/
theorem heeds_recoverOps (failed : List OperationRow) :
    Heeds ListsDistinctly Recovers Recovered [] (recoverOps failed) := by
  have events : ∀ {later : NodeTrace},
      (∀ exchange ∈ later, ∃ event, exchange.act = .journal (.insertEvent event)) →
      ∀ other, ¬ Unscrubbed later other := by
    rintro later kinds other ⟨nowMs, last⟩
    obtain ⟨event, isEvent⟩ := kinds _ (List.mem_of_getLast? last)
    cases isEvent
  refine Heeds.bind (Heeds.of_emits (announceFailed_emits failed) ?_) ?_
  · rintro later act kinds ⟨event, rfl⟩
    exact recovers_scrubbed trivial (events kinds)
  · rintro early - ⟨later, rfl, kinds⟩
    refine ⟨recovers_scrubbed kinds (events kinds), fun listing listsDistinctly => ?_⟩
    cases listing with
    | error cause => exact ⟨scrubbed_snoc (by rintro other nowMs ⟨⟩), nofun⟩
    | ok rows =>
      have listed : Listed (early ++ [⟨.journal .listInstances, .ok rows⟩]) rows :=
        List.mem_append_right _ List.mem_cons_self
      have distinct := (listsDistinctly rows rfl).sublist
        ((List.filter_sublist (p := fun row => row.state.isTransitional)).map _)
      refine (heeds_resolveInstances (fun row member => ?_) distinct
        (scrubbed_snoc (by rintro other nowMs ⟨⟩))).mono (fun _ _ => id) ?_
      · obtain ⟨inRows, transitional⟩ := List.mem_filter.mp member
        refine ⟨⟨rows, listed, inRows⟩, transitional, ?_⟩
        rw [List.forall_mem_append]
        refine ⟨fun exchange inLater about => ?_, by simp [NodeAct.subject]⟩
        obtain ⟨event, isEvent⟩ := kinds exchange inLater
        rw [isEvent] at about
        cases about
      · rintro last outcome ⟨⟨further, rfl⟩, scrubbed, journaled⟩
        refine ⟨scrubbed, fun completed => ⟨rows, listed.append, fun row member transitional => ?_⟩⟩
        exact journaled completed row (List.mem_filter.mpr ⟨member, transitional⟩)

/-! ### The boot -/

def NodeAct.isStateless : NodeAct → Bool
  | .journal (.setInstanceState ..) => false
  | _ => true

/-- The boot has gone on to the leases, and writes no state of an instance from there on. -/
def Joining (history : NodeTrace) : Prop :=
  ∃ early answer late, history = early ++ ⟨.journal .heldLeases, answer⟩ :: late ∧
    ∀ exchange ∈ late, exchange.act.isStateless = true

def Boots (history : NodeTrace) (act : NodeAct) : Prop :=
  Recovers history act ∨ (act = .journal .heldLeases ∧ Recovered history (.ok ())) ∨
    (Joining history ∧ act.isStateless = true)

theorem Joining.scrubbed (joining : Joining history) (id : String) : ¬ Unscrubbed history id := by
  rintro ⟨nowMs, last⟩
  obtain ⟨early, answer, late, rfl, stateless⟩ := joining
  rcases late.eq_nil_or_concat with rfl | ⟨before, exchange, rfl⟩
  · rw [List.getLast?_concat] at last
    cases last
  · rw [List.concat_eq_append, ← List.cons_append, ← List.append_assoc,
      List.getLast?_concat] at last
    cases last
    cases stateless ⟨.journal (.setInstanceState id .destroyed), .ok nowMs⟩ (by simp)

theorem stateless_recover (agent : Agent) :
    (recover agent).Emits fun act : NodeAct => act.isStateless = true := by
  have covers : Covers agent .booter (.ofLeases fun _ _ => True) fun act =>
    act.isStateless = true :=
    { aside := fun act isAside => by
        cases act with
        | journal query => cases query <;> first | rfl | cases isAside.1
        | _ => rfl
      custodial := fun act isCustodial => by
        cases act with
        | journal query => cases query <;> first | rfl | cases isCustodial
        | _ => rfl
      spawn := fun _ => rfl
      submit := fun _ _ _ _ => rfl
      fail := nofun }
  exact covers.emits_sectioned (fun _ _ => trivial) (fun _ _ _ => trivial) Sectioned.recover

/-- **Every action of the boot rests on what the boot has heard.** -/
theorem heeds_boot (agent : Agent) (failed : List OperationRow) :
    Heeds ListsDistinctly Boots (fun history _ => ∀ id, ¬ Unscrubbed history id) []
    (boot agent failed) := by
  have joins : ((recover agent).bind fun _ => (perform .join).bind fun _ =>
      perform .endTick).Emits fun act : NodeAct => act.isStateless = true :=
    Prog.Emits.bind (stateless_recover agent) fun _ => ⟨rfl, fun _ => ⟨rfl, fun _ => trivial⟩⟩
  refine ((heeds_recoverOps failed).mono (fun _ _ => .inl) fun _ _ => id).bind ?_
  rintro history outcome recovered
  cases outcome with
  | error cause => exact recovered.scrubbed
  | ok =>
    refine ⟨.inr (.inl ⟨rfl, recovered⟩), fun answer _ => ?_⟩
    have joining : ∀ later : NodeTrace, (∀ exchange ∈ later, exchange.act.isStateless = true) →
        Joining (history ++ [⟨.journal .heldLeases, answer⟩] ++ later) :=
      fun later stateless => ⟨history, answer, later, by simp, stateless⟩
    refine (Heeds.of_emits (joins.2 answer) fun later act stateless isStateless =>
      .inr (.inr ⟨joining later stateless, isStateless⟩)).mono (fun _ _ => id) ?_
    rintro last - ⟨later, rfl, stateless⟩
    exact (joining later stateless).scrubbed

def Halted (system : System) : Prop :=
  system.world.stage = .down → ∀ task ∈ system.tasks, task.role.isPeer = true ∨ task.prog = .pure ()

section Processes

variable {agent : Agent} {etags : LeaseVersioning} {system after : System}
  {label : Label} {labels : List Label}

theorem kill_halts (task : NodeTask) :
    (System.kill task).role.isPeer = true ∨ (System.kill task).prog = .pure () := by
  unfold System.kill
  split
  · next isPeer => exact .inl isPeer
  · exact .inr rfl

theorem killed_peer {index : Nat} {role : Role} {act : NodeAct}
    {continuation : NodeSig.Ans act → NodeProg Unit}
    (located : (system.tasks.map System.kill)[index]? =
      some ⟨role, .step act continuation⟩) : role.isPeer = true := by
  obtain ⟨task, -, same⟩ := List.mem_map.mp (List.mem_of_getElem? located)
  rcases kill_halts task with isPeer | returned
  · exact (congrArg (fun task : NodeTask => task.role.isPeer) same) ▸ isPeer
  · cases (congrArg Task.prog same).symm.trans returned

theorem Halted.step (covered : Pool.Covered (conduct agent etags) system)
    (halted : Halted system) (stepped : System.next agent etags system label = some after) :
    Halted after := by
  intro down task member
  cases System.next_cases stepped with
  | deliver found executed =>
    have wasDown : system.world.stage = .down := by
      rcases (exec_phase executed).1 with same | ⟨-, up⟩
      · exact same ▸ down
      · exact absurd down up
    rcases List.mem_or_eq_of_mem_set member with kept | rfl
    · exact halted wasDown task kept
    · rcases halted wasDown _ (List.mem_of_getElem? found) with isPeer | returned
      · exact .inl isPeer
      · cases returned
  | launch found =>
    obtain ⟨claims, leases⟩ := covered.inv
    have queued := (claims.queued _ (List.mem_of_getElem? found)).2.2.1
    rw [(leases.down down).2.2] at queued
    cases queued
  | tick serving | invoke serving =>
    rw [System.serving, show system.world.stage = .down from down] at serving
    simp at serving
  | peer =>
    rcases List.mem_append.mp member with kept | started
    · exact halted down task kept
    · rw [List.mem_singleton.mp started]
      exact .inl rfl
  | desire | open_ => exact halted down task member
  | crash =>
    obtain ⟨old, -, rfl⟩ := List.mem_map.mp member
    exact kill_halts old
  | boot => cases down

theorem reach_halted (reached : System.reach agent etags labels = some system) : Halted system := by
  refine run_induction (P := fun _ current => Halted current) (by rintro - task ⟨⟩) ?_ reached
  intro labels current label later reached halted stepped
  exact halted.step (reach_conduct reached) stepped

end Processes

/-! ### What recovery records -/

section Records

variable {failed : List OperationRow} {trace : NodeTrace}
  {residual : NodeProg (Except String Unit)}

theorem journaled_verdict (reached : After (recoverOps failed) trace residual)
    (distinct : ∀ exchange ∈ trace, ListsDistinctly exchange)
    (journaled : Journaled trace id state) :
    ∃ rows row, Listed trace rows ∧ row ∈ rows ∧ row.state.isTransitional = true ∧
      row.instanceId = id ∧ Verdict trace row state := by
  obtain ⟨nowMs, member⟩ := journaled
  obtain ⟨early, late, split⟩ := List.append_of_mem member
  obtain ⟨⟨rows, row, listed, inRows, transitional, named, verdict⟩, -⟩ :=
    (heeds_recoverOps failed).exchange reached distinct split
  rw [split]
  exact ⟨rows, row, listed.append, inRows, transitional, named, verdict.append⟩

theorem called_once (reached : After (recoverOps failed) trace residual)
    (distinct : ∀ exchange ∈ trace, ListsDistinctly exchange) {call : RuntimeCall}
    {first second : call.Answer} (one : ⟨.runtime call, first⟩ ∈ trace)
    (other : ⟨.runtime call, second⟩ ∈ trace) : first = second := by
  -- Whichever of two comes later finds the other in its history.
  have unrepeated : ∀ {answer : call.Answer} {early late : NodeTrace},
      trace = early ++ ⟨.runtime call, answer⟩ :: late →
      ∀ exchange ∈ early, exchange.act ≠ .runtime call :=
    fun split => ((heeds_recoverOps failed).exchange reached distinct split).1
  obtain ⟨early, late, split⟩ := List.append_of_mem one
  rw [split, List.mem_append, List.mem_cons] at other
  rcases other with before | same | after
  · exact absurd rfl (unrepeated split _ before)
  · cases same
    rfl
  · obtain ⟨between, rest, splitLate⟩ := List.append_of_mem after
    have splitLater : trace =
        (early ++ ⟨.runtime call, first⟩ :: between) ++ ⟨.runtime call, second⟩ :: rest := by
      rw [split, splitLate, List.append_assoc, List.cons_append]
    refine absurd rfl (unrepeated splitLater ⟨.runtime call, first⟩ ?_)
    exact List.mem_append_right _ List.mem_cons_self

theorem not_succeeded_of_refused (reached : After (recoverOps failed) trace residual)
    (distinct : ∀ exchange ∈ trace, ListsDistinctly exchange) (refused : Refused trace row) :
    ¬ Succeeded trace row := by
  intro succeeded
  obtain ⟨cause, refused⟩ := refused
  unfold Succeeded at succeeded
  unfold sandboxExchange at succeeded refused
  by_cases stopping : row.state = .stopping
  · rw [if_pos stopping] at succeeded refused
    cases called_once reached distinct succeeded refused
  · rw [if_neg stopping] at succeeded refused
    cases called_once reached distinct succeeded refused

/-- An instance found stopping or being destroyed is recorded where recovery got with it: ended
only if the substrate ended its sandbox, and failed whenever the substrate would not. -/
structure RecordsReached (row : InstanceRow) (trace : NodeTrace)
    (residual : NodeProg (Except String Unit)) : Prop where
  ended : Journaled trace row.instanceId .stopped ∨ Journaled trace row.instanceId .destroyed →
    Succeeded trace row
  failed : Refused trace row →
    (∀ state, Journaled trace row.instanceId state → state = .failed) ∧
      (residual = .pure (.ok ()) → Journaled trace row.instanceId .failed)

/-- **Recovery records what it reached**, at every point of every recovery of any journal: of an
instance found stopping always; of one found being destroyed, unless the substrate refused to
remove its sandbox. Once recovery has returned, that exception is exact. -/
theorem recovery_records_reached_iff (failed : List OperationRow) (journal : Journal)
    (trace : NodeTrace) (residual : NodeProg (Except String Unit)) (row : InstanceRow)
    (reached : After (recoverOps failed) trace residual)
    (answered : ∀ rows, Listed trace rows → rows = journal.listInstances)
    (found : row ∈ journal.listInstances)
    (ending : row.state = .stopping ∨ row.state = .destroying) :
    (¬ (row.state = .destroying ∧ Refused trace row) → RecordsReached row trace residual) ∧
      (residual = .pure (.ok ()) → RecordsReached row trace residual →
        ¬ (row.state = .destroying ∧ Refused trace row)) := by
  have distinct : ∀ exchange ∈ trace, ListsDistinctly exchange := by
    rintro exchange member rows rfl
    rw [answered rows member]
    exact listInstances_distinct journal
  have verdict : ∀ {state}, Journaled trace row.instanceId state → Verdict trace row state := by
    intro state journaled
    obtain ⟨rows, other, listed, inRows, -, named, verdict⟩ :=
      journaled_verdict reached distinct journaled
    rw [answered rows listed] at inRows
    cases List.inj_on_of_nodup_map (listInstances_distinct journal) inRows found named
    exact verdict
  have complete : residual = .pure (.ok ()) → ∃ state, Journaled trace row.instanceId state := by
    rintro rfl
    obtain ⟨-, journaled⟩ := (heeds_recoverOps failed).after reached distinct
    obtain ⟨rows, listed, all⟩ := journaled rfl
    rw [answered rows listed] at all
    refine all row found ?_
    rcases ending with state | state <;> rw [state] <;> rfl
  have stopped (isStopping : row.state = .stopping) {state : InstanceState}
      (journaled : Journaled trace row.instanceId state) :
      (Succeeded trace row ∧ state = .stopped) ∨ (Refused trace row ∧ state = .failed) := by
    simpa only [Verdict, isStopping] using verdict journaled
  have destroyed (isDestroying : row.state = .destroying) {state : InstanceState}
      (journaled : Journaled trace row.instanceId state) :
      (Succeeded trace row ∨ Refused trace row) ∧ state = .destroyed := by
    simpa only [Verdict, isDestroying] using verdict journaled
  refine ⟨fun removed => ?_, fun returned records ⟨isDestroying, refused⟩ => ?_⟩
  · rcases ending with isStopping | isDestroying
    · refine ⟨?_, fun refused => ?_⟩
      · rintro (journaled | journaled) <;>
          rcases stopped isStopping journaled with ⟨succeeded, -⟩ | ⟨-, other⟩
        · exact succeeded
        · cases other
        · exact succeeded
        · cases other
      · have onlyFailed : ∀ state, Journaled trace row.instanceId state → state = .failed := by
          intro state journaled
          rcases stopped isStopping journaled with ⟨succeeded, -⟩ | ⟨-, failed⟩
          · exact absurd succeeded (not_succeeded_of_refused reached distinct refused)
          · exact failed
        refine ⟨onlyFailed, fun returned => ?_⟩
        obtain ⟨state, journaled⟩ := complete returned
        exact onlyFailed state journaled ▸ journaled
    · refine ⟨?_, fun refused => absurd ⟨isDestroying, refused⟩ removed⟩
      rintro (journaled | journaled) <;>
        exact (destroyed isDestroying journaled).1.resolve_right fun refused =>
          removed ⟨isDestroying, refused⟩
  · obtain ⟨state, journaled⟩ := complete returned
    have failed := (records.failed refused).1 state journaled
    rw [(destroyed isDestroying journaled).2] at failed
    cases failed

def stoppingRow : InstanceRow :=
  ⟨ulid, .pinned ulid 0, .stopping, false, "mock", 0, 0, none, "", "token", none, none, none,
    none, none, 1⟩

/-- Its sandbox is stopped, and the instance recorded `stopped`. -/
def stoppedTrace : NodeTrace :=
  [⟨.journal .listInstances, .ok [stoppingRow]⟩, ⟨.runtime (.stop ulid 0), .ok ()⟩,
    ⟨.journal (.setInstanceState ulid .stopped), .ok 0⟩]

theorem recovery_records_reached_stop : ∃ residual, After (recoverOps []) stoppedTrace residual ∧
      Journaled stoppedTrace ulid .stopped ∧ RecordsReached stoppingRow stoppedTrace residual := by
  have reached : ∃ residual, After (recoverOps []) stoppedTrace residual :=
    ⟨_, .step (.step (.step (.refl _)))⟩
  obtain ⟨residual, reached⟩ := reached
  have answered : ∀ rows, Listed stoppedTrace rows →
      rows = Journal.listInstances { Journal.empty with
      instances := ⟨[stoppingRow], by simp⟩ } := by
    intro rows listed
    simp only [Listed, stoppedTrace, List.mem_cons, List.not_mem_nil, or_false] at listed
    rcases listed with listing | other | other
    · cases listing
      rfl
    · cases other
    · cases other
  refine ⟨residual, reached, ⟨0, by simp [stoppedTrace]⟩, ?_⟩
  exact (recovery_records_reached_iff [] _ stoppedTrace residual stoppingRow reached answered
    List.mem_cons_self (.inl rfl)).1 (by simp [stoppingRow])

end Records

def RuntimeCall.keepSandbox : (call : RuntimeCall) → call.Answer
  | removeOrphan _ => .error (.substrateUnavailable "no answer")
  | call => call.succeed

/-- A client asks for the running instance to be destroyed, and the node crashes. -/
def destroyingSession : List Label :=
  System.leasedSession ++ System.ask (.destroyInstance "d" ulid false) :: System.drive 5 0 56 5 ++
    [.crash]

/-- The node comes up again while the substrate does not answer. -/
def recoverUnanswered : List Label :=
  .boot 0 :: (List.range' 61 4).map fun stamp =>
    .deliver 6 { Choice.calm 0 stamp with runtime := RuntimeCall.keepSandbox }

/-- The removal of the sandbox fails, and recovery records `destroyed` all the same. -/
theorem unremoved_instance_recorded_destroyed :
    ∃ system last, System.reach .plain freshVersions destroyingSession = some system ∧
      run (System.next .plain freshVersions) system recoverUnanswered = some last ∧
      (∀ label ∈ recoverUnanswered, ∀ index choice, label = .deliver index choice →
        choice.runtime (.removeOrphan ulid) = .error (.substrateUnavailable "no answer")) ∧
      system.world.journal.stateOf ulid = some .destroying ∧
      last.world.journal.stateOf ulid = some .destroyed := by
  have recorded : ((System.reach .plain freshVersions destroyingSession).any fun system =>
      (run (System.next .plain freshVersions) system recoverUnanswered).any fun last =>
        system.world.journal.stateOf ulid = some .destroying ∧
        last.world.journal.stateOf ulid = some .destroyed) = true := by decide +kernel
  obtain ⟨system, last, reached, continued, facts⟩ := exists_found_of_any recorded
  refine ⟨system, last, reached, continued, ?_, facts⟩
  rintro label member index choice rfl
  rw [recoverUnanswered, List.mem_cons, List.mem_map] at member
  rcases member with isBoot | ⟨stamp, -, same⟩
  · cases isBoot
  · cases same
    rfl

end Barista.Node
