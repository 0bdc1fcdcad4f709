import Barista.Node.Restart
import Barista.Node.Sweeps

/-!
Contract: a node together with the substrate it works on and the sweeps that tend it.

The node runs as `System` has it. What the substrate holds may change at any time. Sweeps read the
node's journal and the substrate's inventory while both go on changing, and a crash ends them. The
sweep that ends crash recovery runs between the two halves of a boot, which waits for it.

Owns: the transition system, its projection to runs of the node, and what every sweep of a reachable
state rests on. Does not own: what is promised of the substrate. Left apart: the events of the sweeps,
which no other part of the node reads, are kept beside its own.
-/

namespace Barista.Node

open Foundation Fleet
open Prog (Heeds After)

/-! ### The ground the sweeps work on -/

/-- How far the sweep that ends crash recovery has come. -/
inductive Recovery where
  | due | running | done
deriving DecidableEq, Repr

structure Ground where
  node : System
  sandboxes : List Sandbox
  credentials : List Credential
  reportedUnclaimed : List String
  recovery : Recovery
  events : List EventRow
  /-- What each sweep has said and heard. -/
  heard : Nat → List (Exchange SweepSig)

/-- What the environment decides about one action of a sweep. -/
structure SweepChoice where
  refusal : Option RuntimeError
  journalError : Option String

def SweepChoice.calm : SweepChoice := ⟨none, none⟩

namespace Ground

def journal (ground : Ground) : Journal := ground.node.world.journal

def answered {ε α : Type} (refusal : Option ε) (value : α) : Except ε α :=
  match refusal with
  | some cause => .error cause
  | none => .ok value

def removed (refusal : Option RuntimeError) (ground after : Ground) :
    Except RuntimeError Unit × Ground :=
  match refusal with
  | some cause => (.error cause, ground)
  | none => (.ok (), after)

/-- What an action of a sweep is answered, and what it does. -/
def perform (ground : Ground) (choice : SweepChoice) : (act : SweepAct) → SweepSig.Ans act × Ground
  | .listSandboxes => (answered choice.refusal ground.sandboxes, ground)
  | .listCredentials => (answered choice.refusal ground.credentials, ground)
  | .listLabeled => (answered choice.refusal (ground.sandboxes.map Sandbox.instanceId), ground)
  | .listInstances => (answered choice.journalError ground.journal.listInstances, ground)
  | .forkSourceInstancesInFlight =>
    (answered choice.journalError ground.journal.forkSourceInstancesInFlight, ground)
  | .removeSandbox substrateId => removed choice.refusal ground { ground with
      sandboxes := ground.sandboxes.filter fun sandbox => sandbox.substrateId ≠ substrateId }
  | .removeCredential id => removed choice.refusal ground { ground with
      credentials := ground.credentials.filter fun credential => credential.id ≠ id }
  | .removeOrphan id => removed choice.refusal ground { ground with
      sandboxes := ground.sandboxes.filter fun sandbox => sandbox.instanceId ≠ id }
  | .reportedUnclaimed => (ground.reportedUnclaimed, ground)
  | .setReportedUnclaimed ids => ((), { ground with reportedUnclaimed := ids })
  | .record event => ((), { ground with events := ground.events ++ [event] })
  | .endRecovery => ((), { ground with recovery := .done })

def hear (ground : Ground) (index : Nat) (exchange : Exchange SweepSig) : Ground :=
  { ground with
    heard := Function.update ground.heard index (ground.heard index ++ [exchange]) }

end Ground

def sweepMachine : Machine SweepSig Ground SweepChoice where
  exec index act choice ground :=
    let result := ground.perform choice act
    some (result.1, result.2.hear index ⟨act, result.1⟩)

/-! ### The transition system -/

abbrev SweepTask := Task SweepSig Sweep Unit

abbrev Site := Pool SweepSig Sweep Unit Ground

inductive SiteLabel where
  | node (label : Label)
  /-- The substrate's inventory changes. -/
  | substrate (sandboxes : List Sandbox) (credentials : List Credential)
  | begin_ (sweep : Sweep)
  | sweep (index : Nat) (choice : SweepChoice)

/-- Whether a step of the node ends the tasks of the process. -/
def Label.ends : Label → Bool
  | crash | boot _ => true
  | _ => false

/-- A boot waits for the sweep that ends crash recovery. -/
def Ground.waits (ground : Ground) : Label → Bool
  | .deliver index _ => ground.recovery ≠ .done && (ground.node.tasks[index]?).any atLeases
  | _ => false

/-- Whether a sweep may begin: recovery's once the boot has come to it, the others while the node
serves. -/
def Ground.allows (ground : Ground) : Sweep → Bool
  | .recovery => ground.recovery = .due && ground.node.recovered
  | .instances | .credentials => ground.node.serving

def Ground.moved (ground : Ground) (label : Label) (node : System) : Ground :=
  if label.ends then
    { ground with node := node, recovery := .due, reportedUnclaimed := [] }
  else { ground with node := node }

def Ground.begun (ground : Ground) : Sweep → Ground
  | .recovery => { ground with recovery := .running }
  | _ => ground

namespace Site

def halt (task : SweepTask) : SweepTask := { task with prog := .pure () }

def initial : Site := ⟨⟨.initial, [], [], [], .due, [], fun _ => []⟩, []⟩

def next (agent : Agent) (etags : LeaseVersioning) (site : Site) :
    SiteLabel → Option Site
  | .node label =>
    if site.world.waits label then none
    else (System.next agent etags site.world.node label).map fun node =>
      ⟨site.world.moved label node, if label.ends then site.tasks.map halt else site.tasks⟩
  | .substrate sandboxes credentials =>
    some { site with world := { site.world with
      sandboxes := sandboxes, credentials := credentials } }
  | .begin_ sweep =>
    if site.world.allows sweep then
      some (Pool.spawn ⟨site.world.begun sweep, site.tasks⟩ ⟨sweep, sweep.prog agent⟩)
    else none
  | .sweep index choice => site.step sweepMachine index choice

def reach (agent : Agent) (etags : LeaseVersioning) (labels : List SiteLabel) :
    Option Site :=
  run (next agent etags) initial labels

def pass (index count : Nat) : List SiteLabel := List.replicate count (.sweep index .calm)

/-- A session of a node that boots once, its boot coming to the leases in `first` steps, with
recovery's sweep of an empty substrate in its place. -/
def hosted (first : Nat) (labels : List Label) : List SiteLabel :=
  (labels.take first).map .node ++ .begin_ .recovery :: pass 0 3 ++ (labels.drop first).map .node

def sweeping (site : Site) (index : Nat) : Option Sweep := (site.tasks[index]?).map Task.role

def asks (site : Site) (index : Nat) : Option SweepAct :=
  match site.tasks[index]? with
  | some ⟨_, .step act _⟩ => some act
  | _ => none

/-! ### The node of a site -/

def nodeLabels (labels : List SiteLabel) : List Label :=
  labels.filterMap fun label => match label with
    | .node label => some label
    | _ => none

variable {agent : Agent} {etags : LeaseVersioning} {site after : Site}
  {label : SiteLabel} {labels : List SiteLabel}

@[simp] theorem moved_node (ground : Ground) (label : Label) (node : System) :
    (ground.moved label node).node = node := by
  unfold Ground.moved
  split <;> rfl

@[simp] theorem moved_heard (ground : Ground) (label : Label) (node : System) :
    (ground.moved label node).heard = ground.heard := by
  unfold Ground.moved
  split <;> rfl

@[simp] theorem moved_inventory (ground : Ground) (label : Label) (node : System) :
    (ground.moved label node).sandboxes = ground.sandboxes ∧
      (ground.moved label node).credentials = ground.credentials := by
  unfold Ground.moved
  split <;> exact ⟨rfl, rfl⟩

@[simp] theorem begun_node (ground : Ground) (sweep : Sweep) :
    (ground.begun sweep).node = ground.node := by
  cases sweep <;> rfl

@[simp] theorem begun_heard (ground : Ground) (sweep : Sweep) :
    (ground.begun sweep).heard = ground.heard := by
  cases sweep <;> rfl

@[simp] theorem begun_inventory (ground : Ground) (sweep : Sweep) :
    (ground.begun sweep).sandboxes = ground.sandboxes ∧
      (ground.begun sweep).credentials = ground.credentials := by
  cases sweep <;> exact ⟨rfl, rfl⟩

theorem perform_node (ground : Ground) (choice : SweepChoice) (act : SweepAct) :
    (ground.perform choice act).2.node = ground.node := by
  cases act <;> simp only [Ground.perform, Ground.removed] <;> first | rfl | (split <;> rfl)

theorem perform_heard (ground : Ground) (choice : SweepChoice) (act : SweepAct) :
    (ground.perform choice act).2.heard = ground.heard := by
  cases act <;> simp only [Ground.perform, Ground.removed] <;> first | rfl | (split <;> rfl)

inductive Step (agent : Agent) (etags : LeaseVersioning) (site : Site) :
    SiteLabel → Site → Prop
  | node {label : Label} {node : System} (free : site.world.waits label = false)
      (stepped : System.next agent etags site.world.node label = some node) :
      Step agent etags site (.node label)
        ⟨site.world.moved label node, if label.ends then site.tasks.map halt else site.tasks⟩
  | substrate (sandboxes : List Sandbox) (credentials : List Credential) :
      Step agent etags site (.substrate sandboxes credentials)
        { site with world := { site.world with
        sandboxes := sandboxes, credentials := credentials } }
  | begin_ {sweep : Sweep} (allowed : site.world.allows sweep = true) :
      Step agent etags site (.begin_ sweep)
        (Pool.spawn ⟨site.world.begun sweep, site.tasks⟩ ⟨sweep, sweep.prog agent⟩)
  | sweep {index : Nat} {choice : SweepChoice} {sweep : Sweep} {act : SweepAct}
      {continuation : SweepSig.Ans act → SweepProg Unit}
      (found : site.tasks[index]? = some ⟨sweep, .step act continuation⟩) :
      Step agent etags site (.sweep index choice)
        ⟨(site.world.perform choice act).2.hear index ⟨act, (site.world.perform choice act).1⟩,
          site.tasks.set index ⟨sweep, continuation (site.world.perform choice act).1⟩⟩

theorem step_of_next (stepped : next agent etags site label = some after) :
    Step agent etags site label after := by
  cases label with
  | node label =>
    simp only [next] at stepped
    split at stepped
    · cases stepped
    · next free =>
        obtain ⟨node, moved, rfl⟩ := Option.map_eq_some_iff.mp stepped
        exact .node (Bool.not_eq_true _ ▸ free) moved
  | substrate sandboxes credentials =>
    cases stepped
    exact .substrate sandboxes credentials
  | begin_ sweep =>
    simp only [next] at stepped
    split at stepped
    · next allowed =>
        cases stepped
        exact .begin_ allowed
    · cases stepped
  | sweep index choice =>
    have acted : site.step sweepMachine index choice = some after := stepped
    obtain ⟨sweep, act, continuation, answer, world, found, executed, rfl⟩ := Pool.step_cases acted
    cases executed
    exact .sweep found

/-- **The node of a site runs as a node does.** -/
theorem reach_node (reached : reach agent etags labels = some site) :
    System.reach agent etags (nodeLabels labels) = some site.world.node := by
  refine run_induction (P := fun labels current =>
    System.reach agent etags (nodeLabels labels) = some current.world.node) rfl ?_ reached
  intro labels before label after _ earlier stepped
  rw [nodeLabels, List.filterMap_append]
  cases step_of_next stepped with
  | node free moved =>
    rw [moved_node]
    exact System.reach_snoc earlier moved
  | substrate sandboxes credentials => simpa [nodeLabels] using earlier
  | begin_ allowed => simpa [nodeLabels] using earlier
  | sweep found => simpa [nodeLabels, Ground.hear, perform_node] using earlier

/-! ### What the sweeps of a site rest on -/

/-- Every exchange of a history rests on what came before it. -/
def Rested (sweep : Sweep) (history : List (Exchange SweepSig)) : Prop :=
  ∀ early exchange late, history = early ++ exchange :: late → sweep.RestsOn early exchange.act

/-- The sweeps of a site are where their histories have left them, and their histories are such as
sweeps have. -/
structure Tended (agent : Agent) (site : Site) : Prop where
  resides : Pool.Resides (Sweep.prog agent) site site.world.heard
  rested : ∀ index sweep, site.sweeping index = some sweep → Rested sweep (site.world.heard index)

theorem rested_snoc {sweep : Sweep} {history : List (Exchange SweepSig)}
    {exchange : Exchange SweepSig}
    (rested : Rested sweep history) (rests : sweep.RestsOn history exchange.act) :
    Rested sweep (history ++ [exchange]) := by
  intro early other late split
  rcases List.eq_nil_or_concat late with rfl | ⟨rest, last, rfl⟩
  · obtain ⟨rfl, same⟩ := List.append_inj' split rfl
    cases same
    exact rests
  · rw [List.concat_eq_append, ← List.cons_append, ← List.append_assoc] at split
    obtain ⟨same, -⟩ := List.append_inj' split rfl
    exact rested early other rest same

theorem Tended.rests (tended : Tended agent site) {index : Nat} {sweep : Sweep} {act : SweepAct}
    {continuation : SweepSig.Ans act → SweepProg Unit}
    (found : site.tasks[index]? = some ⟨sweep, .step act continuation⟩) :
    sweep.RestsOn (site.world.heard index) act :=
  ((heeds_sweep agent sweep).after (tended.resides.residual found) fun _ _ => trivial).1

theorem sweeping_set {index other : Nat} {sweep : Sweep} {act : SweepAct}
    {continuation : SweepSig.Ans act → SweepProg Unit} {world : Ground} {rest : SweepProg Unit}
    (found : site.tasks[index]? = some ⟨sweep, .step act continuation⟩) :
    sweeping ⟨world, site.tasks.set index ⟨sweep, rest⟩⟩ other = site.sweeping other := by
  simp only [sweeping]
  by_cases same : other = index
  · subst same
    rw [List.getElem?_set_self (List.getElem?_eq_some_iff.mp found).1, found]
    rfl
  · rw [List.getElem?_set_ne (Ne.symm same)]

theorem sweeping_halted {world : Ground} {other : Nat} :
    sweeping ⟨world, site.tasks.map halt⟩ other = site.sweeping other := by
  simp only [sweeping, List.getElem?_map, Option.map_map]
  rfl

theorem Tended.step (tended : Tended agent site)
    (stepped : next agent etags site label = some after) : Tended agent after := by
  cases step_of_next stepped with
  | @node label node free moved =>
    constructor
    · rw [moved_heard]
      split
      · exact tended.resides.survive _ fun _ => .inr ⟨(), rfl⟩
      · exact ⟨tended.resides.residual, tended.resides.fresh⟩
    · intro index sweep named
      rw [moved_heard]
      split at named
      · exact tended.rested index sweep (sweeping_halted ▸ named)
      · exact tended.rested index sweep named
  | substrate sandboxes credentials =>
    exact ⟨⟨tended.resides.residual, tended.resides.fresh⟩, tended.rested⟩
  | @begin_ sweep allowed =>
    constructor
    · simpa using tended.resides.spawn sweep (site.world.begun sweep)
    · intro index other named
      simp only [Pool.spawn_world, begun_heard]
      simp only [sweeping, Pool.spawn, List.getElem?_append] at named
      split at named
      · exact tended.rested index other named
      · next past =>
          rw [tended.resides.fresh (Nat.not_lt.mp past)]
          intro early exchange late split
          simp at split
  | @sweep index choice sweep act continuation found =>
    constructor
    · simp only [Ground.hear, perform_heard]
      exact tended.resides.step found
    · intro other part named
      rw [sweeping_set found] at named
      simp only [Ground.hear, perform_heard]
      by_cases same : other = index
      · subst same
        rw [Function.update_self]
        have own : sweep = part := by
          simpa [sweeping, found] using named
        subst own
        exact rested_snoc (tended.rested other sweep named) (tended.rests found)
      · rw [Function.update_of_ne same]
        exact tended.rested other part named

/-- **Every answer a sweep has heard was given at some moment of the run.** -/
theorem heard_at (reached : reach agent etags labels = some site) {index : Nat}
    {exchange : Exchange SweepSig} (member : exchange ∈ site.world.heard index) :
    ∃ early choice late moment after, labels = early ++ .sweep index choice :: late ∧
      reach agent etags early = some moment ∧
      next agent etags moment (.sweep index choice) = some after ∧
      moment.asks index = some exchange.act ∧
      exchange.answer = (moment.world.perform choice exchange.act).1 := by
  obtain ⟨early, label, late, moment, after, rfl, came, stepped, unheard, heard⟩ :=
    run_moment (P := fun site : Site => exchange ∈ site.world.heard index) (by simp [initial])
      reached member
  cases step_of_next stepped with
  | node free moved => exact absurd (moved_heard .. ▸ heard) unheard
  | substrate sandboxes credentials => exact absurd heard unheard
  | begin_ allowed => exact absurd (begun_heard .. ▸ heard) unheard
  | @sweep other choice sweep act continuation found =>
    simp only [Ground.hear, perform_heard] at heard
    obtain ⟨rfl, rfl⟩ := (mem_grown heard).resolve_left unheard
    exact ⟨early, choice, late, moment, _, rfl, came, stepped, by rw [asks, found], rfl⟩

theorem reach_tended (reached : reach agent etags labels = some site) : Tended agent site := by
  refine run_invariant (P := Tended agent) (fun tended stepped => tended.step stepped) ?_ reached
  constructor
  · exact ⟨fun located => by simp [initial] at located, fun _ => rfl⟩
  · intro index sweep named
    simp [sweeping, initial] at named

end Site

end Barista.Node
