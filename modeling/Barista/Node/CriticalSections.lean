import Barista.Node.Conduct

/-!
Contract: the critical sections of the node keep its conduct.

Each section takes `lease_writes`, writes one lease record at most twice, and settles the
map of held leases before it drops the lock. Here every section is executed step by step,
with other tasks free to run between any two of its actions.

Owns: the rules for single actions under the lock, and the obligation of every section.
-/

namespace Barista.Node

open Foundation Fleet Discipline

/-! ### Under the lock -/

namespace Synced

variable {held : Std.TreeMap String Held} {acked : String → Option Held} {name : String}

theorem rewrite {nextHeld : Std.TreeMap String Held} {nextAcked : String → Option Held}
    (synced : Synced held acked) (elsewhere : ∀ other, other ≠ name →
      nextHeld[other]? = held[other]? ∧ nextAcked other = acked other)
    (known : ∀ lease, nextHeld[name]? = some lease → nextAcked name = some lease)
    (noted : ∀ lease, nextAcked name = some lease → nextHeld[name]? = some lease ∨
      lease.lease.state = none) :
    Synced nextHeld nextAcked := by
  constructor
  · intro other found listed
    by_cases same : other = name
    · subst same
      exact known found listed
    · rw [(elsewhere other same).1] at listed
      rw [(elsewhere other same).2]
      exact synced.known other found listed
  · intro other found acknowledged
    by_cases same : other = name
    · subst same
      exact noted found acknowledged
    · rw [(elsewhere other same).2] at acknowledged
      rw [(elsewhere other same).1]
      exact synced.noted other found acknowledged

theorem insert (synced : Synced held acked) (lease : Held) :
    Synced (held.insert name lease) (Function.update acked name (some lease)) := by
  refine synced.rewrite (fun other different => ⟨?_, Function.update_of_ne different _ _⟩)
    (by simp) (by simp)
  rw [Std.TreeMap.getElem?_insert,
    if_neg (by simpa [Std.LawfulEqCmp.compare_eq_iff_eq] using different.symm)]

theorem erase (synced : Synced held acked) :
    Synced (held.erase name) (Function.update acked name none) := by
  refine synced.rewrite (fun other different => ⟨?_, Function.update_of_ne different _ _⟩)
    (by simp) (by simp)
  rw [Std.TreeMap.getElem?_erase,
    if_neg (by simpa [Std.LawfulEqCmp.compare_eq_iff_eq] using different.symm)]

theorem update_absent (synced : Synced held acked) (absent : held[name]? = none) {lease : Held}
    (silent : lease.lease.state = none) :
    Synced held (Function.update acked name (some lease)) := by
  refine synced.rewrite (fun other different => ⟨rfl, Function.update_of_ne different _ _⟩)
    (by simp [absent]) ?_
  intro found known
  rw [Function.update_self] at known
  cases known
  exact .inr silent

end Synced

/-- A task of the fleet that holds `lease_writes`, and what it knows of the leases. -/
structure InLock (permit : Permit) (index : Nat) (role : Role)
    (A : Std.TreeMap String Held → (String → Option Held) → Prop) (world : World) : Prop where
  stance : Stance permit index role world
  joined : world.stage = .joined
  writing : world.writing = some index
  leases : A world.held world.aux.acked

section Lock

variable {agent : Agent} {etags : LeaseVersioning} {permit : Permit}
  {index : Nat} {role : Role} {A : Std.TreeMap String Held → (String → Option Held) → Prop}
  {before after : World}

theorem steady_inLock (own : role.isPeer = false) :
    Steady index role (InLock permit index role A) where
  own := own
  relied relied inLock := by
    obtain ⟨writing, held, acked⟩ := relied.lock inLock.writing
    refine ⟨inLock.stance.relied relied, ?_, writing, ?_⟩
    · rw [relied.stage (by rw [inLock.joined]; decide), inLock.joined]
    · rw [held, acked]
      exact inLock.leases
  quiet quiet inLock := by
    refine ⟨inLock.stance.quiet quiet, ?_, ?_, ?_⟩
    · rw [quiet.stage, inLock.joined]
    · rw [quiet.writing, inLock.writing]
    · rw [quiet.held, quiet.acked]
      exact inLock.leases

theorem claims_kept (claims : Claims before) (journal : after.journal = before.journal)
    (spawned : after.spawned = before.spawned) (charge : after.aux.charge = before.aux.charge)
    (noted : after.aux.recorded = before.aux.recorded) : Claims after where
  owned := journal ▸ claims.owned
  unparked := by rw [journal]; exact claims.unparked
  queued := by rw [journal, spawned, charge, noted]; exact claims.queued
  distinct := by rw [spawned]; exact claims.distinct

theorem lock_kept (journal : after.journal = before.journal)
    (charge : after.aux.charge = before.aux.charge)
    (noted : after.aux.recorded = before.aux.recorded) (ticking : after.ticking = before.ticking)
    (stage : after.stage = before.stage) (lock : before.writing ≠ some index →
      (after.writing = before.writing ∨ before.writing = none) ∧ after.held = before.held ∧
        after.aux.acked = before.aux.acked) (domain : before.ticking ≠ some index →
      ∀ name : String, before.held[name]? = none → after.held[name]? = none)
    (reading : ∀ other, other ≠ index → after.aux.reading other = before.aux.reading other) :
    Kept index before after where
  claims executor claimed := ⟨.inl (journal ▸ claimed), .inl (by rw [charge]), by rw [noted]⟩
  lock := lock
  tick other := ⟨.inl ticking, stage, domain other,
    fun _ idle => ⟨journal ▸ idle, fun _ => by rw [journal]⟩⟩
  stage _ := stage
  up up := by rwa [stage]
  reading := reading

theorem Stance.same (stance : Stance permit index role before)
    (journal : after.journal = before.journal) (charge : after.aux.charge = before.aux.charge)
    (noted : after.aux.recorded = before.aux.recorded) (ticking : after.ticking = before.ticking)
    (stage : after.stage = before.stage) : Stance permit index role after where
  up := by rw [stage]; exact stance.up
  executing may executor isExecutor := by
    obtain ⟨planned, claimed, charged, recorded⟩ := stance.executing may executor isExecutor
    exact ⟨planned, journal ▸ claimed, by rw [charge, charged], by rw [noted, recorded]⟩
  submits may := by rw [ticking, stage]; exact stance.submits may
  ticks may := by rw [ticking]; exact stance.ticks may
  joined may := by rw [stage]; exact stance.joined may
  boots may := by rw [ticking, stage]; exact stance.boots may
  fails may := by rw [ticking]; exact stance.fails may

/-! #### Rules for the actions of a section -/

variable {β : Type} {Q : β → World → Prop} {B : World → Prop} {world : World}

theorem InLock.writes {act : NodeAct} {answer : NodeSig.Ans act} {program : NodeProg β}
    {bucket : Objects String Lease UpdateVersion} {held : Std.TreeMap String Held}
    {acked : String → Option Held} {reading : Nat → Option (String × Bool)}
    {K : Std.TreeMap String Held → (String → Option Held) → Prop}
    (inLock : InLock permit index role A before) (claims : Claims before)
    (written : after = { before with
      bucket := bucket, held := held, aux :=
        { before.aux with acked := acked, reading := reading } })
    (holds : ∀ (name : String) lease, held[name]? = some lease → Owned agent lease)
    (acknowledges : ∀ (name : String) lease, acked name = some lease → Owned agent lease)
    (domain : before.ticking ≠ some index →
      ∀ name : String, before.held[name]? = none → held[name]? = none)
    (others : ∀ other, other ≠ index → reading other = before.aux.reading other)
    (fact : Fact agent index role before act) (known : K held acked)
    (rest : InLock permit index role K after →
      (conduct agent etags).wp index role program Q after) :
    (conduct agent etags).Inv after ∧ (conduct agent etags).Guar index role act answer
      before after ∧ (conduct agent etags).wp index role program Q after := by
  subst written
  refine ⟨⟨claims_kept claims rfl rfl rfl rfl, holds, acknowledges, ?_, ?_, ?_⟩,
    ⟨lock_kept rfl rfl rfl rfl rfl (fun other => absurd inLock.writing other) domain others, fact⟩,
    rest ⟨inLock.stance.same rfl rfl rfl rfl rfl, inLock.joined, inLock.writing, known⟩⟩
  · exact fun free => absurd (inLock.writing.symm.trans free) nofun
  · exact fun outside => absurd inLock.joined outside
  · exact fun down => absurd down inLock.stance.up

theorem wp_look (stable : (conduct agent etags).Stable index role B) {act : NodeAct}
    {next : NodeSig.Ans act → NodeProg β} (unchanged : ∀ choice current answer after,
      (nodeMachine etags).exec index act choice current = some (answer, after) → after = current)
    (fact : ∀ current, B current → Fact agent index role current act) (holds : B world)
    (rest : ∀ choice current answer, B current → Leases agent current →
      (nodeMachine etags).exec index act choice current = some (answer, current) →
      (conduct agent etags).wp index role (next answer) Q current) :
    (conduct agent etags).wp index role (.step act next) Q world := by
  refine wp_step stable holds ?_
  rintro current choice answer after kept ⟨claims, leases⟩ executed -
  obtain rfl := unchanged choice current answer after executed
  have quiet : Quiet index after after := .of_same claims.owned rfl rfl rfl rfl rfl rfl rfl
  exact ⟨⟨claims, leases⟩, ⟨quiet.kept, fact after kept⟩,
    rest choice after answer kept leases executed⟩

theorem wp_held (stable : (conduct agent etags).Stable index role B)
    {next : Std.TreeMap String Held → NodeProg β} (holds : B world)
    (rest : ∀ current, B current → Leases agent current →
      (conduct agent etags).wp index role (next current.held) Q current) :
    (conduct agent etags).wp index role (.step (S := NodeSig) .held next) Q world := by
  refine wp_look stable ?_ (fun _ _ => trivial) holds
    fun choice current answer kept leases executed => ?_
  · intro choice current answer after executed
    cases executed
    rfl
  · cases executed
    exact rest current kept leases

theorem wp_now (stable : (conduct agent etags).Stable index role B)
    {next : Int → NodeProg β} (holds : B world) (rest : ∀ nowMs current, B current →
      (conduct agent etags).wp index role (next nowMs) Q current) :
    (conduct agent etags).wp index role (.step (S := NodeSig) .now next) Q world := by
  refine wp_look stable ?_ (fun _ _ => trivial) holds fun choice current answer kept _ _ =>
    rest _ current kept
  intro choice current answer after executed
  cases executed
  rfl

theorem wp_locked (own : role.isPeer = false) {body : NodeProg β} {P : β → Prop}
    (stable : (conduct agent etags).Stable index role B)
    (here : ∀ current, B current → Stance permit index role current ∧ current.stage = .joined)
    (holds : B world)
    (inside : ∀ current, B current → InLock permit index role Synced
      { current with writing := some index } →
      (conduct agent etags).wp index role body
        (fun value after => P value ∧ InLock permit index role Synced after)
        { current with writing := some index }) :
    (conduct agent etags).wp index role (locked body)
      (fun value after => P value ∧ Stance permit index role after ∧ after.stage = .joined)
        world := by
  refine wp_step stable holds ?_
  rintro current choice answer after kept ⟨claims, leases⟩ executed -
  simp only [nodeMachine, World.exec] at executed
  split at executed
  · next free =>
      cases executed
      obtain ⟨stance, joined⟩ := here current kept
      have synced := leases.synced free
      refine ⟨⟨claims_kept claims rfl rfl rfl rfl,
        ⟨leases.held, leases.acked, by simp, leases.outside, ?_⟩⟩,
        ⟨lock_kept rfl rfl rfl rfl rfl (fun _ => ⟨.inr free, rfl, rfl⟩) (fun _ _ => id) fun _ _ =>
          rfl, trivial⟩, ?_⟩
      · intro down
        exact absurd down stance.up
      · have inLock : InLock permit index role Synced { current with writing := some index } :=
          ⟨stance.same rfl rfl rfl rfl rfl, joined, rfl, synced⟩
        refine wp_seq (inside current kept inLock) ?_
        rintro value reached - ⟨promised, locked⟩
        refine wp_step (steady_inLock own).stable locked ?_
        rintro current choice answer after locked ⟨claims, leases⟩ executed -
        cases executed
        have stance : Stance permit index role
            { current with writing := none, aux := current.aux.doneReading index } :=
          locked.stance.same rfl rfl rfl rfl rfl
        refine ⟨⟨claims_kept claims rfl rfl rfl rfl,
          ⟨leases.held, leases.acked, fun _ => locked.leases,
            leases.outside, fun down => absurd down stance.up⟩⟩,
          ⟨lock_kept rfl rfl rfl rfl rfl (fun other => absurd locked.writing other)
            (fun _ _ => id) ?_, trivial⟩, ?_⟩
        · intro other different
          exact Function.update_of_ne different _ _
        · refine wp_value (A := fun world => Stance permit index role world ∧ world.stage = .joined)
            ?_ ⟨stance, locked.joined⟩ fun _ kept => ⟨promised, kept⟩
          rintro _ _ relied - ⟨stance, joined⟩
          have relied := relied own
          exact ⟨stance.relied relied, by rw [relied.stage (by rw [joined]; decide), joined]⟩
  · cases executed

/-- What a task knows of the leases after a put of its own was answered. -/
def afterPut (A : Std.TreeMap String Held → (String → Option Held) → Prop) (name : String)
    (body : Lease) (answer : Except StoreError UpdateVersion)
    (held : Std.TreeMap String Held) (acked : String → Option Held) : Prop :=
  match answer with
  | .ok version => ∃ old, A held old ∧ acked = Function.update old name (some ⟨body, version⟩)
  | .error _ => A held acked

variable {name : String} {held : Std.TreeMap String Held}

theorem Synced.rewritten (synced : ∀ held acked, A held acked → Synced held acked) {body : Lease}
    {version : UpdateVersion} {acked : String → Option Held}
    (known : ∃ old, afterPut A name body (.ok version) old acked ∧
      held = old.insert name ⟨body, version⟩) : Synced held acked := by
  obtain ⟨old, ⟨before, kept, rfl⟩, rfl⟩ := known
  exact (synced old before kept).insert _

theorem wp_put {origin : Origin} {body : Lease} {mode : PutMode UpdateVersion}
    {next : Except StoreError UpdateVersion → NodeProg β} (ours : origin ≠ .peer)
    (owned : body.owner = agent.nodeId)
    (part : (∃ held, origin = .stampState held) ∨ permit.fails = true)
    (stable : (conduct agent etags).Stable index role B)
    (inside : ∀ current, B current → InLock permit index role A current)
    (fact : ∀ current, B current → PutFact agent index current origin name body mode)
    (holds : B world)
    (rest : ∀ answer current, InLock permit index role (afterPut A name body answer) current →
      (conduct agent etags).wp index role (next answer) Q current) :
    (conduct agent etags).wp index role
      (.step (S := NodeSig) (.bucket origin (.put name body mode)) next) Q world := by
  refine wp_step stable holds ?_
  rintro current choice answer after kept ⟨claims, leases⟩ executed -
  have inLock := inside current kept
  obtain ⟨⟨result, bucket⟩, -, same⟩ := Option.map_eq_some_iff.mp executed
  cases same
  have facts : Fact agent index role current (.bucket origin (.put name body mode)) :=
    ⟨fact current kept, fun _ => ⟨inLock.writing, inLock.joined, owned,
      part.imp_right fun fails => (inLock.stance.fails fails).1⟩⟩
  have sameReading : ∀ (aux : Auxiliary) other, other ≠ index →
      (aux.doneReading index).reading other = aux.reading other :=
    fun aux other different => Function.update_of_ne different _ _
  cases result with
  | error cause =>
    have aux : current.aux.request index origin (.put name body mode) (.error cause) =
        current.aux.doneReading index := if_neg ours
    simp only [aux]
    exact inLock.writes claims rfl leases.held leases.acked (fun _ _ => id) (sameReading _) facts
      inLock.leases (rest (.error cause) _)
  | ok version =>
    have aux : current.aux.request index origin (.put name body mode) (.ok version) =
        (current.aux.doneReading index).acknowledge name ⟨body, version⟩ := if_neg ours
    simp only [aux]
    refine inLock.writes claims rfl leases.held ?_ (fun _ _ => id) (sameReading _) facts
      ⟨current.aux.acked, inLock.leases, rfl⟩ (rest (.ok version) _)
    intro other lease known
    by_cases same : other = name
    · subst same
      rw [Function.update_self] at known
      cases known
      exact owned
    · rw [Function.update_of_ne same] at known
      exact leases.acked other lease known

variable {lease : Held}

variable (own : role.isPeer = false)

include own

theorem wp_hold {next : Unit → NodeProg β} (owned : Owned agent lease)
    (known : ∀ held acked, A held acked → acked name = some lease)
    (domain : permit.ticks = true ∨ ∀ held acked, A held acked → (held[name]?).isSome = true)
    (holds : InLock permit index role A world) (rest : ∀ current, InLock permit index role
        (fun held acked => ∃ old, A old acked ∧ held = old.insert name lease) current →
      (conduct agent etags).wp index role (next ()) Q current) :
    (conduct agent etags).wp index role (.step (S := NodeSig) (.hold name lease) next) Q
      world := by
  refine wp_step (steady_inLock own).stable holds ?_
  rintro current choice answer after inLock ⟨claims, leases⟩ executed -
  cases executed
  refine inLock.writes claims rfl ?_ leases.acked ?_ (fun _ _ => rfl)
    ⟨inLock.writing, known _ _ inLock.leases⟩ ⟨current.held, inLock.leases, rfl⟩ (rest _)
  · intro other found listed
    rw [Std.TreeMap.getElem?_insert] at listed
    split at listed
    · cases listed
      exact owned
    · exact leases.held other found listed
  · intro notTicking other absent
    rcases domain with ticks | present
    · exact absurd (inLock.stance.ticks ticks) notTicking
    · rw [Std.TreeMap.getElem?_insert]
      by_cases same : name = other
      · subst same
        have there := present _ _ inLock.leases
        rw [absent] at there
        cases there
      · rw [if_neg (by simpa [Std.LawfulEqCmp.compare_eq_iff_eq] using same), absent]

theorem wp_forget (ticks : permit.ticks = true)
    {next : Unit → NodeProg β} (holds : InLock permit index role A world)
    (rest : ∀ current, InLock permit index role
        (fun held acked => ∃ oldHeld oldAcked, A oldHeld oldAcked ∧ held = oldHeld.erase name ∧
          acked = Function.update oldAcked name none) current →
      (conduct agent etags).wp index role (next ()) Q current) :
    (conduct agent etags).wp index role (.step (S := NodeSig) (.forget name) next) Q world := by
  refine wp_step (steady_inLock own).stable holds ?_
  rintro current choice answer after inLock ⟨claims, leases⟩ executed -
  cases executed
  refine inLock.writes claims rfl ?_ ?_ (fun other => absurd (inLock.stance.ticks ticks) other)
    (fun _ _ => rfl) ⟨inLock.writing, inLock.stance.ticks ticks⟩
    ⟨current.held, current.aux.acked, inLock.leases, rfl, rfl⟩ (rest _)
  · intro other found listed
    rw [Std.TreeMap.getElem?_erase] at listed
    split at listed
    · cases listed
    · exact leases.held other found listed
  · intro other found known
    rw [Function.update_apply] at known
    split at known
    · cases known
    · exact leases.acked other found known

theorem wp_row (ticks : permit.ticks = true) {request : Query}
    {next : Except String request.Answer → NodeProg β} (isRow : request.isLeaseRow = true)
    (holds : InLock permit index role A world)
    (rest : ∀ answer current, InLock permit index role A current →
      (conduct agent etags).wp index role (next answer) Q current) :
    (conduct agent etags).wp index role (.step (S := NodeSig) (.journal request) next) Q
      world := by
  refine wp_step (steady_inLock own).stable holds ?_
  rintro current choice answer after inLock ⟨claims, leases⟩ executed -
  have quiet : Quiet index current after := by
    refine query_quiet claims ?_ ?_ (.inl ?_) executed
    · rintro args rfl
      cases isRow
    · rintro args rfl
      cases isRow
    · cases request <;> first | rfl | cases isRow
  have fact : Fact agent index role current (.journal request) := by
    cases request with
    | holdLease | setLeaseInstance | markLeaseFencing | releaseLease =>
      exact fun _ => inLock.stance.ticks ticks
    | _ => cases isRow
  exact ⟨⟨quiet.claims claims, quiet.leases leases⟩, ⟨quiet.kept, fact⟩,
    rest answer after ((steady_inLock own).quiet quiet inLock)⟩

omit own in
theorem wp_leaseStateFor {C : World → Prop} (steady : Steady index role C) (id : String)
    (holds : C world) :
    (conduct agent etags).wp index role (leaseStateFor id) (fun state current => C current ∧
        (state = some "running" → current.aux.reading index = some (id, true))) world := by
  unfold leaseStateFor
  split
  · exact wp_value steady.stable holds fun _ kept =>
      ⟨kept, fun running => absurd running (by decide)⟩
  · refine wp_step steady.stable holds ?_
    rintro current choice answer after kept ⟨claims, leases⟩ executed -
    have noted : Quiet index current after ∧
        (runStateOf answer = some "running" → after.aux.reading index = some (id, true)) := by
      simp only [nodeMachine, World.exec, World.runState] at executed
      split at executed
      · cases executed
        exact ⟨.of_same claims.owned rfl rfl rfl rfl rfl rfl rfl, by simp [runStateOf]⟩
      · cases executed
        refine ⟨⟨.same rfl, fun _ claimed => claimed, fun _ _ => rfl, claims.owned, rfl,
          rfl, rfl, rfl, ?_, rfl, rfl, rfl, rfl⟩, ?_⟩
        · exact fun other different => Function.update_of_ne different _ _
        · intro saysRunning
          have isRunning : current.journal.running id = true := by
            cases found : current.journal.getInstance id with
            | none =>
              rw [found] at saysRunning
              exact absurd saysRunning (by decide)
            | some row =>
              rw [found, runStateOf] at saysRunning
              split at saysRunning
              · next running => simp [Journal.running, Journal.stateOf, found, running]
              · exact absurd saysRunning (by decide)
          simp [Auxiliary.read, isRunning]
    obtain ⟨quiet, reading⟩ := noted
    refine ⟨⟨quiet.claims claims, quiet.leases leases⟩, ⟨quiet.kept, trivial⟩, ?_⟩
    refine wp_value (A := fun current => C current ∧ (runStateOf answer = some "running" →
        current.aux.reading index = some (id, true))) ?_ ⟨steady.quiet quiet kept, reading⟩
      fun _ kept => kept
    rintro _ _ relied - ⟨kept, reading⟩
    have relied := relied steady.own
    exact ⟨steady.relied relied kept, by rw [relied.reading]; exact reading⟩

omit own in
theorem stable_reading {C : World → Prop} (steady : Steady index role C) {id : String}
    {condition : Prop} : (conduct agent etags).Stable index role fun current =>
      C current ∧ (condition → current.aux.reading index = some (id, true)) := by
  rintro _ _ relied - ⟨kept, reading⟩
  have relied := relied steady.own
  exact ⟨steady.relied relied kept, by rw [relied.reading]; exact reading⟩

theorem wp_done {value : β} {P : β → Prop} (promised : P value)
    (synced : ∀ held acked, A held acked → Synced held acked)
    (holds : InLock permit index role A world) : (conduct agent etags).wp index role (.pure value)
      (fun value after => P value ∧ InLock permit index role Synced after) world :=
  wp_value (steady_inLock own).stable holds fun _ kept =>
    ⟨promised, kept.stance, kept.joined, kept.writing, synced _ _ kept.leases⟩

theorem wp_renewOne (name : String) (acc : Renewals)
    (holds : Stance .member index role world) :
    (conduct agent etags).wp index role (renewOne agent name acc)
      (fun _ after => True ∧ Stance .member index role after ∧ after.stage = .joined) world := by
  refine wp_locked own (steady_stance own).stable
    (fun current stance => ⟨stance, stance.joined rfl⟩) holds fun current _ inLock => ?_
  refine wp_held (steady_inLock own).stable inLock fun current inLock leases => ?_
  rw [Prog.pure_bind]
  split
  · exact wp_done own trivial (fun _ _ => id) inLock
  · next lease listed =>
      have owned := leases.held name lease listed
      have inLock : InLock .member index role
          (fun held acked => Synced held acked ∧ held[name]? = some lease) current :=
        ⟨inLock.stance, inLock.joined, inLock.writing, inLock.leases, listed⟩
      refine wp_seq (wp_leaseStateFor (steady_inLock own) lease.lease.instanceId inLock) ?_
      rintro state current - known
      refine wp_now (stable_reading (steady_inLock own)) known fun nowMs current known => ?_
      refine wp_put nofun owned (.inr rfl) (stable_reading (steady_inLock own))
        (fun current known => known.1) ?_ known fun answer current inLock => ?_
      · rintro current ⟨inLock, reading⟩
        exact ⟨inLock.leases.2, inLock.leases.1.known _ _ inLock.leases.2, rfl, rfl, reading⟩
      · rcases answer with cause | version
        · cases cause with
          | alreadyExists | precondition =>
            refine wp_forget own rfl inLock fun current inLock => wp_done own trivial ?_ inLock
            rintro _ _ ⟨held, acked, ⟨synced, -⟩, rfl, rfl⟩
            exact synced.erase
          | notFound | unavailable => exact wp_done own trivial (fun _ _ known => known.1) inLock
        · refine wp_hold own owned ?_ (.inl rfl) inLock fun current inLock =>
            wp_done own trivial (fun _ _ => Synced.rewritten fun _ _ known => known.1) inLock
          rintro held acked ⟨old, -, rfl⟩
          exact Function.update_self ..

theorem steady_member :
    Steady index role fun current => Stance permit index role current ∧
    current.stage = .joined where
  own := own
  relied := by
    rintro before after relied ⟨stance, joined⟩
    exact ⟨stance.relied relied, by rw [relied.stage (by rw [joined]; decide), joined]⟩
  quiet := by
    rintro before after quiet ⟨stance, joined⟩
    exact ⟨stance.quiet quiet, by rw [quiet.stage, joined]⟩

omit own in
theorem leaseNaming_some {instanceId : String}
    (found : leaseNaming held instanceId = some (name, lease)) :
    held[name]? = some lease ∧ lease.lease.instanceId = instanceId := by
  have listed := List.mem_of_find?_eq_some found
  have named := List.find?_some found
  exact ⟨Std.TreeMap.mem_toList_iff_getElem?_eq_some.mp listed, by simpa using named⟩

theorem wp_stampHeld {state : String} (owned : Owned agent lease)
    (known : InLock permit index role
      (fun held acked => Synced held acked ∧ held[name]? = some lease) world ∧
      (some state = some "running" → world.aux.reading index = some
        (lease.lease.instanceId, true))) :
    (conduct agent etags).wp index role (stampHeld name lease state)
      (fun _ after => True ∧ InLock permit index role Synced after) world := by
  refine wp_put nofun owned (.inl ⟨lease, rfl⟩) (stable_reading (steady_inLock own))
    (fun current known => known.1) ?_ known fun answer current inLock => ?_
  · rintro current ⟨inLock, reading⟩
    exact ⟨inLock.leases.2, inLock.leases.1.known _ _ inLock.leases.2, rfl, rfl, reading⟩
  · rcases answer with cause | version
    · cases cause <;> exact wp_done own trivial (fun _ _ known => known.1) inLock
    · refine wp_hold own owned ?_ ?_ inLock fun current inLock =>
        wp_done own trivial (fun _ _ => Synced.rewritten fun _ _ known => known.1) inLock
      · rintro held acked ⟨old, -, rfl⟩
        exact Function.update_self ..
      · right
        rintro held acked ⟨old, ⟨-, listed⟩, -⟩
        rw [listed]
        rfl

theorem wp_stampLeaseState (instanceId : String)
    (holds : Stance permit index role world) :
    (conduct agent etags).wp index role (stampLeaseState instanceId)
      (fun _ after => True ∧ Stance permit index role after) world := by
  have returned : ∀ {current}, Stance permit index role current →
      (conduct agent etags).wp index role (.pure ())
        (fun _ after => True ∧ Stance permit index role after) current :=
    fun stance => wp_value (steady_stance own).stable stance fun _ kept => ⟨trivial, kept⟩
  unfold stampLeaseState
  refine wp_look (steady_stance own).stable ?_ (fun _ _ => trivial) holds
    fun choice current answer stance _ executed => ?_
  · intro choice current answer after executed
    cases executed
    rfl
  cases executed
  rw [Prog.pure_bind]
  split
  · exact returned stance
  next proceeds =>
  have joined : current.stage = .joined := by
    simp only [not_or, Bool.not_eq_false, beq_iff_eq] at proceeds
    exact proceeds.1
  refine wp_seq (wp_leaseStateFor (steady_member own) instanceId ⟨stance, joined⟩) ?_
  rintro answer current - known
  split
  · exact returned known.1.1
  next state =>
  -- The lock is taken here; what was read may be stale by now, but it is still what was read.
  have stable : (conduct agent etags).Stable index role fun current =>
      InLock permit index role Synced current ∧
        (some state = some "running" → current.aux.reading index = some (instanceId, true)) :=
    stable_reading (steady_inLock own)
  refine wp_mono (fun _ _ _ kept => ⟨trivial, kept.2.1⟩)
    (wp_locked (P := fun _ => True) own (stable_reading (steady_member own))
    (fun _ known => known.1)
      known fun current known inLock => ?_)
  refine wp_held stable ⟨inLock, known.2⟩ fun current known leases => ?_
  rw [Prog.pure_bind]
  split
  · exact wp_done own trivial (fun _ _ => id) known.1
  next name lease found =>
  obtain ⟨listed, rfl⟩ := leaseNaming_some found
  split
  · exact wp_done own trivial (fun _ _ => id) known.1
  · refine wp_stampHeld own (leases.held name lease listed) ⟨?_, known.2⟩
    exact ⟨known.1.stance, known.1.joined, known.1.writing, known.1.leases, listed⟩

/-! #### Acquisition -/

def afterAcquire (agent : Agent) (A : Std.TreeMap String Held → (String → Option Held) → Prop)
    (name : String) (outcome : Except FleetError Acquired)
    (held : Std.TreeMap String Held) (acked : String → Option Held) : Prop :=
  match outcome with
  | .ok (.held lease) => Owned agent lease ∧ lease.lease.state = none ∧
      ∃ old, A held old ∧ acked = Function.update old name (some lease)
  | _ => A held acked

theorem wp_claim (fails : permit.fails = true) {lease : Lease}
    {mode : PutMode UpdateVersion} (owned : lease.owner = agent.nodeId)
    (silent : lease.state = none) (holds : InLock permit index role A world) :
    (conduct agent etags).wp index role (onBucket .acquire (claim leaseCodec name lease mode))
      (fun outcome after => InLock permit index role (afterAcquire agent A name outcome) after)
        world := by
  refine wp_put nofun owned (.inr fails) (steady_inLock own).stable (fun _ inLock => inLock)
    (fun _ _ => silent) holds fun answer current inLock => ?_
  have answered : ∀ outcome, InLock permit index role (afterAcquire agent A name outcome) current →
      (conduct agent etags).wp index role (.pure outcome)
        (fun outcome after => InLock permit index role (afterAcquire agent A name outcome) after)
        current :=
    fun outcome inLock => wp_value (steady_inLock own).stable inLock fun _ kept => kept
  rcases answer with cause | version
  · cases cause <;> exact answered _ inLock
  · exact answered (.ok (.held ⟨lease, version⟩))
      ⟨inLock.stance, inLock.joined, inLock.writing, owned, silent, inLock.leases⟩

theorem wp_acquire (fails : permit.fails = true) {nowMs : Int}
    (holds : InLock permit index role A world) : (conduct agent etags).wp index role
      (onBucket .acquire (acquire leaseCodec name agent.nodeId agent.advertise agent.timing nowMs))
      (fun outcome after => InLock permit index role (afterAcquire agent A name outcome) after)
        world := by
  have answered : ∀ {outcome : Except FleetError Acquired} {current},
      (∀ lease, outcome ≠ .ok (.held lease)) → InLock permit index role A current →
      (conduct agent etags).wp index role (.pure outcome)
        (fun outcome after => InLock permit index role (afterAcquire agent A name outcome) after)
        current := by
    intro outcome current notHeld inLock
    refine wp_value (steady_inLock own).stable inLock fun _ kept => ?_
    refine ⟨kept.stance, kept.joined, kept.writing, ?_⟩
    unfold afterAcquire
    split
    · next lease => exact absurd rfl (notHeld lease)
    · exact kept.leases
  unfold Fleet.acquire
  split
  · exact answered nofun holds
  -- The read moves nothing; what it answered decides which record is claimed.
  refine wp_plain (steady_inLock own) rfl rfl holds fun answer current inLock => ?_
  dsimp only [Prog.bind]
  split
  · exact answered nofun inLock
  · exact wp_claim own fails rfl rfl inLock
  · split
    · exact answered nofun inLock
    · exact wp_claim own fails rfl rfl inLock

omit own in
theorem afterAcquire_other {outcome : Except FleetError Acquired}
    (notHeld : ∀ lease, outcome = .ok (.held lease) → False) {acked : String → Option Held}
    (known : afterAcquire agent A name outcome held acked) : A held acked := by
  unfold afterAcquire at known
  split at known
  · next lease => exact (notHeld lease rfl).elim
  · exact known

theorem wp_reacquireOne (name : String) (holds : Stance .member index role world) :
    (conduct agent etags).wp index role (reacquireOne agent name)
      (fun outcome after => (∀ lease, outcome = .ok (.held lease) → Owned agent lease) ∧
        Stance .member index role after ∧ after.stage = .joined) world := by
  refine wp_locked own (steady_stance own).stable
    (fun current stance => ⟨stance, stance.joined rfl⟩) holds fun current _ inLock => ?_
  refine wp_now (steady_inLock own).stable inLock fun nowMs current inLock => ?_
  rw [Prog.pure_bind]
  refine wp_seq (wp_acquire own rfl inLock) ?_
  rintro outcome current - inLock
  split
  · next lease =>
      obtain ⟨owned, -⟩ := inLock.leases
      refine wp_hold own owned ?_ (.inl rfl) inLock fun current inLock =>
        wp_done own ?_ ?_ inLock
      · rintro held acked ⟨-, -, old, -, rfl⟩
        exact Function.update_self ..
      · rintro found ⟨⟩
        exact owned
      · rintro _ _ ⟨held, ⟨-, -, acked, synced, rfl⟩, rfl⟩
        exact synced.insert _
  · next notHeld =>
      refine wp_done own ?_ ?_ inLock
      · rintro lease rfl
        exact absurd rfl (notHeld lease)
      · exact fun _ _ known => afterAcquire_other (by simpa using notHeld) known

theorem wp_acquireRecord (name : String) (report : PassReport)
    (holds : Stance .member index role world) (absent : world.held[name]? = none) :
    (conduct agent etags).wp index role (acquireRecord agent name report) (fun custody after =>
        (∀ lease report, custody = .ours lease report → Owned agent lease) ∧
        Stance .member index role after ∧ after.stage = .joined) world := by
  -- Only the tick adds names to the map, so the name stays out of it until the lock is taken.
  have stable : (conduct agent etags).Stable index role fun current =>
      Stance .member index role current ∧ current.held[name]? = none := by
    rintro _ _ relied - ⟨stance, absent⟩
    have relied := relied own
    exact ⟨stance.relied relied, (relied.tick (stance.ticks rfl)).2.2 name absent⟩
  refine wp_locked own stable (fun current known => ⟨known.1, known.1.joined rfl⟩) ⟨holds, absent⟩
    fun current known inLock => ?_
  have inLock : InLock .member index role (fun held acked => Synced held acked ∧ held[name]? = none)
      { current with writing := some index } :=
    ⟨inLock.stance, inLock.joined, inLock.writing, inLock.leases, known.2⟩
  refine wp_now (steady_inLock own).stable inLock fun nowMs current inLock => ?_
  rw [Prog.pure_bind]
  refine wp_seq (wp_acquire own rfl inLock) ?_
  rintro outcome current - inLock
  split
  · next lease =>
      obtain ⟨owned, silent, -⟩ := inLock.leases
      refine wp_row own rfl rfl inLock fun answer current inLock => ?_
      rw [Prog.pure_bind]
      split
      · -- The lease is given back: acknowledged, not held, and silent about its run state.
        refine wp_put nofun owned (.inr rfl) (steady_inLock own).stable (fun _ inLock => inLock)
          (fun _ inLock => ⟨rfl, rfl, silent, ?_⟩) inLock fun answer current inLock => ?_
        · obtain ⟨-, -, old, -, acked⟩ := inLock.leases
          rw [acked]
          exact Function.update_self ..
        refine wp_done own nofun ?_ inLock
        intro held acked known
        rcases answer with cause | version
        · obtain ⟨-, -, old, ⟨synced, absent⟩, rfl⟩ := known
          exact synced.update_absent absent silent
        · obtain ⟨_, ⟨-, -, old, ⟨synced, absent⟩, rfl⟩, rfl⟩ := known
          rw [Function.update_idem]
          exact synced.update_absent absent silent
      · refine wp_hold own owned ?_ (.inl rfl) inLock fun current inLock => wp_done own ?_ ?_ inLock
        · rintro held acked ⟨-, -, old, -, rfl⟩
          exact Function.update_self ..
        · rintro found report ⟨⟩
          exact owned
        · rintro _ _ ⟨held, ⟨-, -, acked, ⟨synced, -⟩, rfl⟩, rfl⟩
          exact synced.insert _
  · next notHeld =>
      exact wp_done own nofun
        (fun _ _ known => (afterAcquire_other (by simpa using notHeld) known).1) inLock
  · exact wp_done own nofun (fun _ _ known => known.1) inLock

theorem wp_custodyOf (name : String) (report : PassReport)
    (holds : Stance .member index role world) :
    (conduct agent etags).wp index role (custodyOf agent name report) (fun custody after =>
        (∀ lease report, custody = .ours lease report → Owned agent lease) ∧
        Stance .member index role after) world := by
  refine wp_held (steady_stance own).stable holds fun current stance leases => ?_
  rw [Prog.pure_bind]
  split
  · next lease listed =>
      refine wp_value (steady_stance own).stable stance fun _ kept => ⟨?_, kept⟩
      rintro found report ⟨⟩
      exact leases.held name _ listed
  · next absent =>
      exact wp_mono (fun _ _ _ known => ⟨known.1, known.2.1⟩)
        (wp_acquireRecord own name report stance absent)

theorem wp_releaseHeld (name : String) (owned : Owned agent lease)
    (report : PassReport) (holds : Stance .member index role world) :
    (conduct agent etags).wp index role (releaseHeld name lease report)
      (fun _ after => True ∧ Stance .member index role after ∧ after.stage = .joined) world := by
  refine wp_locked own (steady_stance own).stable
    (fun current stance => ⟨stance, stance.joined rfl⟩) holds fun current _ inLock => ?_
  refine wp_put nofun owned (.inr rfl) (steady_inLock own).stable (fun _ inLock => inLock)
    (fun _ inLock => ⟨rfl, rfl, inLock.leases⟩) inLock fun answer current inLock => ?_
  -- A refused release gives the lease up as a successful one does.
  have givenUp : ∀ {A} {value : PassReport} {current}, InLock .member index role A current →
      (∀ held acked, A held acked → ∃ old, Synced held old ∧
        (acked = old ∨ ∃ lease, acked = Function.update old name (some lease))) →
      (conduct agent etags).wp index role
        (.step (S := NodeSig) (.journal (.releaseLease name)) fun _ =>
          .step (S := NodeSig) (.forget name) fun _ => .pure value)
        (fun _ after => True ∧ InLock .member index role Synced after) current := by
    intro A value current inLock synced
    refine wp_row own rfl rfl inLock fun answer current inLock => ?_
    refine wp_forget own rfl inLock fun current inLock => wp_done own trivial ?_ inLock
    rintro _ _ ⟨held, acked, known, rfl, rfl⟩
    obtain ⟨old, synced, rfl | ⟨lease, rfl⟩⟩ := synced held acked known
    · exact synced.erase
    · rw [Function.update_idem]
      exact synced.erase
  rcases answer with cause | version
  · cases cause with
    | alreadyExists | precondition =>
      exact givenUp inLock fun _ acked known => ⟨acked, known, .inl rfl⟩
    | notFound | unavailable => exact wp_done own trivial (fun _ _ => id) inLock
  · refine givenUp inLock ?_
    rintro _ _ ⟨old, synced, rfl⟩
    exact ⟨old, synced, .inr ⟨_, rfl⟩⟩

end Lock

end Barista.Node
