import Barista.Node.InstanceStates
import Barista.Node.Site

/-!
Contract: no sweep takes from a live instance what is its own.

A sweep asks the substrate first and the journal second; an instance is journaled first and given
its sandbox and its credential second. So an instance the substrate names is one the journal knows.

Owns: what is promised of the substrate, and the safety of the sweeps of sandboxes and credentials
under it. Does not own: which of several sandboxes is kept.
-/

namespace Barista.Node

open Foundation Fleet

/-! ### What the substrate is promised to be -/

namespace Ground

def Known (ground : Ground) (id : String) : Prop := (ground.journal.stateOf id).isSome = true

/-- An instance that has a row is in no terminal state. -/
def Live (ground : Ground) (id : String) : Prop :=
  (ground.journal.stateOf id).all (fun state => !state.isTerminal) = true

instance (ground : Ground) (id : String) : Decidable (ground.Known id) :=
  inferInstanceAs (Decidable (_ = true))

instance (ground : Ground) (id : String) : Decidable (ground.Live id) :=
  inferInstanceAs (Decidable (_ = true))

end Ground

/-- A substrate id stands for one sandbox, tagged for the instance it was created for, and a
credential is claimed for the instance it was created for; neither is there before its instance is
journaled. -/
def Honest (tags : String → String) (claims : String → Option String) (before : Site) :
    SiteLabel → Site → Prop
  | .substrate sandboxes credentials, _ =>
    (∀ sandbox ∈ sandboxes, sandbox.instanceId = tags sandbox.substrateId ∧
      (before.world.Known sandbox.instanceId ∨
        ∃ old ∈ before.world.sandboxes, old.substrateId = sandbox.substrateId)) ∧
    ∀ credential ∈ credentials, credential.instance_ = claims credential.id ∧
      ((credential.instance_).all (fun id => before.world.Known id) = true ∨
        ∃ old ∈ before.world.credentials, old.id = credential.id)
  | _, _ => True

instance (tags : String → String) (claims : String → Option String) (before after : Site) :
    (label : SiteLabel) → Decidable (Honest tags claims before label after)
  | .substrate _ _ => inferInstanceAs (Decidable (_ ∧ _))
  | .node _ | .begin_ _ | .sweep _ _ => inferInstanceAs (Decidable True)

/-! ### What the sweeps have heard of an instance -/

def Names (id : String) : Exchange SweepSig → Prop
  | ⟨.listSandboxes, .ok sandboxes⟩ => ∃ sandbox ∈ sandboxes, sandbox.instanceId = id
  | ⟨.listCredentials, .ok credentials⟩ => ∃ credential ∈ credentials,
      credential.instance_ = some id
  | _ => False

/-- What holds of a live instance and the sweeps around it. -/
structure Founded (tags : String → String) (claims : String → Option String) (id : String)
    (site : Site) : Prop where
  live : site.world.Live id
  sandboxes : ∀ sandbox ∈ site.world.sandboxes,
    sandbox.instanceId = tags sandbox.substrateId ∧ site.world.Known sandbox.instanceId
  credentials : ∀ credential ∈ site.world.credentials, credential.instance_ = claims credential.id ∧
      ∀ owner, credential.instance_ = some owner → site.world.Known owner
  tagged : ∀ {index listed}, ⟨.listSandboxes, .ok listed⟩ ∈ site.world.heard index →
    ∀ sandbox ∈ listed, sandbox.instanceId = tags sandbox.substrateId
  claimed : ∀ {index listed}, ⟨.listCredentials, .ok listed⟩ ∈ site.world.heard index →
    ∀ credential ∈ listed, credential.instance_ = claims credential.id
  named : ∀ {index}, ∀ exchange ∈ site.world.heard index, Names id exchange → site.world.Known id
  /-- A registry read after a listing that names the instance finds it live. -/
  read : ∀ {index early rows late}, site.world.heard index = early ++
    ⟨.listInstances, .ok rows⟩ :: late →
      (∃ exchange ∈ early, Names id exchange) → id ∈ liveInstances rows

variable {agent : Agent} {etags : LeaseVersioning} {site after : Site}
  {label : SiteLabel} {labels : List SiteLabel} {tags : String → String}
  {claims : String → Option String} {id : String}

theorem known_moved {node : System} {moving : Label}
    (stepped : System.next agent etags site.world.node moving = some node)
    (known : site.world.Known id) : (site.world.moved moving node).Known id := by
  obtain ⟨state, read⟩ := Option.isSome_iff_exists.mp known
  obtain ⟨target, moved⟩ := stateOf_stays stepped read
  simp only [Ground.Known, Ground.journal, Site.moved_node, moved, Option.isSome_some]

theorem mem_liveInstances {journal : Journal} {state : InstanceState}
    (read : journal.stateOf id = some state) (live : state.isTerminal = false) :
    id ∈ liveInstances journal.listInstances := by
  obtain ⟨row, member, rfl, rfl⟩ := stateOf_listed read
  refine List.mem_map.mpr ⟨row, List.mem_filter.mpr ⟨member, ?_⟩, rfl⟩
  rw [live]
  rfl

theorem listed_live {ground : Ground} (known : ground.Known id) (live : ground.Live id) :
    id ∈ liveInstances ground.journal.listInstances := by
  obtain ⟨state, read⟩ := Option.isSome_iff_exists.mp known
  refine mem_liveInstances read ?_
  simpa [Ground.Live, read] using live

/-! ### One action of a sweep -/

structure Told (tags : String → String) (claims : String → Option String) (id : String)
    (ground : Ground) (history : List (Exchange SweepSig)) (exchange : Exchange SweepSig) :
    Prop where
  tagged : ∀ listed, exchange = ⟨.listSandboxes, .ok listed⟩ →
    ∀ sandbox ∈ listed, sandbox.instanceId = tags sandbox.substrateId
  claimed : ∀ listed, exchange = ⟨.listCredentials, .ok listed⟩ →
    ∀ credential ∈ listed, credential.instance_ = claims credential.id
  named : Names id exchange → ground.Known id
  read : ∀ rows, exchange = ⟨.listInstances, .ok rows⟩ →
    (∃ earlier ∈ history, Names id earlier) → id ∈ liveInstances rows

theorem answered_ok {ε α : Type} {refusal : Option ε} {value answer : α}
    (answered : Ground.answered refusal value = .ok answer) : answer = value := by
  cases refusal with
  | none => exact (Except.ok.inj answered).symm
  | some cause => cases answered

theorem Founded.heard (founded : Founded tags claims id site) (choice : SweepChoice)
    (act : SweepAct) (index : Nat) : Told tags claims id site.world (site.world.heard index)
      ⟨act, (site.world.perform choice act).1⟩ := by
  constructor
  · intro listed same sandbox member
    obtain ⟨rfl, answered⟩ := Exchange.mk.inj same
    rw [answered_ok (eq_of_heq answered)] at member
    exact (founded.sandboxes sandbox member).1
  · intro listed same credential member
    obtain ⟨rfl, answered⟩ := Exchange.mk.inj same
    rw [answered_ok (eq_of_heq answered)] at member
    exact (founded.credentials credential member).1
  · intro names
    cases act with
    | listSandboxes =>
      simp only [Ground.perform, Ground.answered] at names
      cases refused : choice.refusal with
      | some cause => simp [refused, Names] at names
      | none =>
        rw [refused] at names
        obtain ⟨sandbox, member, rfl⟩ := names
        exact (founded.sandboxes sandbox member).2
    | listCredentials =>
      simp only [Ground.perform, Ground.answered] at names
      cases refused : choice.refusal with
      | some cause => simp [refused, Names] at names
      | none =>
        rw [refused] at names
        obtain ⟨credential, member, claims⟩ := names
        exact (founded.credentials credential member).2 id claims
    | _ => exact names.elim
  · rintro rows same ⟨earlier, heard, names⟩
    obtain ⟨rfl, answered⟩ := Exchange.mk.inj same
    rw [answered_ok (eq_of_heq answered)]
    exact listed_live (founded.named earlier heard names) founded.live

theorem perform_inventory (ground : Ground) (choice : SweepChoice) (act : SweepAct) :
    (ground.perform choice act).2.sandboxes ⊆ ground.sandboxes ∧
      (ground.perform choice act).2.credentials ⊆ ground.credentials := by
  cases act <;> simp only [Ground.perform, Ground.removed] <;>
    first
    | exact ⟨List.Subset.refl _, List.Subset.refl _⟩
    | (split <;> simp)

/-! ### Whole runs -/

theorem Founded.step (founded : Founded tags claims id site)
    (stepped : Site.next agent etags site label = some after)
    (honest : Honest tags claims site label after) (live : after.world.Live id) :
    Founded tags claims id after := by
  -- What is left of an inventory is as it was, as long as the journal forgets no instance.
  have inventory (stays : ∀ {owner}, site.world.Known owner → after.world.Known owner)
      (fewer : after.world.sandboxes ⊆ site.world.sandboxes ∧
        after.world.credentials ⊆ site.world.credentials) :
      (∀ sandbox ∈ after.world.sandboxes,
        sandbox.instanceId = tags sandbox.substrateId ∧ after.world.Known sandbox.instanceId) ∧
      ∀ credential ∈ after.world.credentials, credential.instance_ = claims credential.id ∧
        ∀ owner, credential.instance_ = some owner → after.world.Known owner := by
    refine ⟨fun sandbox member => ?_, fun credential member => ?_⟩
    · obtain ⟨tagged, known⟩ := founded.sandboxes sandbox (fewer.1 member)
      exact ⟨tagged, stays known⟩
    · obtain ⟨claimed, known⟩ := founded.credentials credential (fewer.2 member)
      exact ⟨claimed, fun owner named => stays (known owner named)⟩
  cases Site.step_of_next stepped with
  | @node moving node free moved =>
    have stays {owner : String} (known : site.world.Known owner) :
        (site.world.moved moving node).Known owner := known_moved moved known
    obtain ⟨sandboxes, credentials⟩ := inventory stays (by simp)
    refine ⟨live, sandboxes, credentials, ?_, ?_, ?_, ?_⟩ <;> simp only [Site.moved_heard]
    · exact founded.tagged
    · exact founded.claimed
    · exact fun exchange heard names => stays (founded.named exchange heard names)
    · exact founded.read
  | substrate listed credited =>
    refine ⟨live, fun sandbox member => ?_, fun credential member => ?_, founded.tagged,
      founded.claimed, founded.named, founded.read⟩
    · obtain ⟨tagged, known | ⟨old, before, same⟩⟩ := honest.1 sandbox member
      · exact ⟨tagged, known⟩
      · obtain ⟨oldTagged, oldKnown⟩ := founded.sandboxes old before
        rw [same, ← tagged] at oldTagged
        exact ⟨tagged, oldTagged ▸ oldKnown⟩
    · obtain ⟨claimed, known | ⟨old, before, same⟩⟩ := honest.2 credential member
      · refine ⟨claimed, fun owner named => ?_⟩
        rw [named] at known
        exact of_decide_eq_true known
      · obtain ⟨oldClaimed, oldKnown⟩ := founded.credentials old before
        rw [same, ← claimed] at oldClaimed
        exact ⟨claimed, fun owner named => oldKnown owner (oldClaimed.trans named)⟩
  | @begin_ sweep allowed =>
    have same : (site.world.begun sweep).Known = site.world.Known := by
      funext owner
      simp [Ground.Known, Ground.journal]
    obtain ⟨sandboxes, credentials⟩ := inventory (fun {_} known => same ▸ known) (by simp)
    refine ⟨live, sandboxes, credentials, ?_, ?_, ?_, ?_⟩ <;>
      simp only [Pool.spawn_world, Site.begun_heard]
    · exact founded.tagged
    · exact founded.claimed
    · exact fun exchange heard names => same ▸ founded.named exchange heard names
    · exact founded.read
  | @sweep index choice sweep act continuation found =>
    have journal : ((site.world.perform choice act).2.hear index
        ⟨act, (site.world.perform choice act).1⟩).Known = site.world.Known := by
      funext owner
      simp [Ground.Known, Ground.journal, Ground.hear, Site.perform_node]
    obtain ⟨sandboxes, credentials⟩ :=
      inventory (fun {_} known => journal ▸ known) (perform_inventory site.world choice act)
    have heard := founded.heard choice act index
    refine ⟨live, sandboxes, credentials, ?_, ?_, ?_, ?_⟩ <;>
      simp only [Ground.hear, Site.perform_heard]
    · intro other listed member
      rcases mem_grown member with old | ⟨-, new⟩
      · exact founded.tagged old
      · exact heard.tagged listed new.symm
    · intro other listed member
      rcases mem_grown member with old | ⟨-, new⟩
      · exact founded.claimed old
      · exact heard.claimed listed new.symm
    · intro other exchange member names
      change ((site.world.perform choice act).2.hear index
        ⟨act, (site.world.perform choice act).1⟩).Known id
      rw [journal]
      rcases mem_grown member with old | ⟨-, rfl⟩
      · exact founded.named exchange old names
      · exact heard.named names
    · intro other early rows late split mentioned
      by_cases same : other = index
      · subst same
        rw [Function.update_self] at split
        rcases List.eq_nil_or_concat late with rfl | ⟨rest, last, rfl⟩
        · obtain ⟨rfl, newest⟩ := List.append_inj' split rfl
          exact heard.read rows (List.cons.inj newest).1 mentioned
        · rw [List.concat_eq_append, ← List.cons_append, ← List.append_assoc] at split
          obtain ⟨earlier, -⟩ := List.append_inj' split rfl
          exact founded.read earlier mentioned
      · rw [Function.update_of_ne same] at split
        exact founded.read split mentioned

variable {sweep : Sweep} {history : List (Exchange SweepSig)}

variable {index : Nat}

end Barista.Node
