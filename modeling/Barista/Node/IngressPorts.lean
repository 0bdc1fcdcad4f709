import Mathlib.Data.Finset.Dedup
import Mathlib.Data.Finset.Basic
import Mathlib.Logic.Function.Basic
import Barista.Foundation.Run
import Barista.Node.Execute

/-!
Contract: the listener ports that concurrent creates plan and publish on one host.

A port is protected twice. From plan to the end of the attempt it is in the agent's set of reservations;
from publish on it is in the substrate's listing. A planner reads the two at different times: the listing
first, the reservations later. A create that is published and ends between the two reads is in neither.

Owns: one attempt of `create_fresh` step by step, any number of them beside each other, the table of
ingress objects, and when no publish is refused for its port. Does not own: sandboxes and volumes, whose
calls are the steps an attempt may fail at.
-/

namespace Barista.Node.Hypeman

open Barista.Foundation Barista.Node

/-! ### Ingress objects -/

structure IngressMatch where
  hostname : String
  port : Option Nat
deriving DecidableEq, Repr

structure IngressTarget where
  «instance» : String
  port : Nat
deriving DecidableEq, Repr

structure IngressRule where
  «match» : IngressMatch
  target : IngressTarget
deriving DecidableEq, Repr

/-- An ingress object. Its name is unique, so it stands for the id as well. -/
structure Ingress where
  name : String
  rules : List IngressRule
deriving DecidableEq, Repr

def IngressRule.listener (rule : IngressRule) : Nat := rule.match.port.getD 80

def Ingress.ports (ingress : Ingress) : List Nat := ingress.rules.map IngressRule.listener

def listenerPortOf (ingress : Ingress) : Except RuntimeError Nat :=
  match ingress.rules with
  | [rule] => .ok rule.listener
  | other => .error (.other <|
      s!"ingress '{ingress.name}' has {other.length} rules where barista wrote " ++
      "one; refusing to guess which listener it serves")

structure IngressConfig where
  advertiseHost : String
  first : Nat
  last : Nat
  nonempty : first ≤ last
  positive : 0 < first

def pickPort (config : IngressConfig) (taken : Finset Nat) : Option Nat :=
  (List.range' config.first (config.last + 1 - config.first)).find? fun port => port ∉ taken

theorem not_mem_of_pickPort {config : IngressConfig} {taken : Finset Nat} {port : Nat}
    (picked : pickPort config taken = some port) : port ∉ taken := by
  simpa using List.find?_some picked

/-! ### Attempts -/

inductive CreateAttempt where
  | done
  | portRace (detail : String)
deriving DecidableEq, Repr

/-- What the substrate makes of a request to create an ingress. -/
inductive CreateAnswer where
  | created
  | nameTaken
  | portInUse
deriving DecidableEq, Repr

inductive Attempt where
  | idle
  /-- About to read the object of its own name. -/
  | reading
  /-- The object exists, and serves this port. -/
  | sticky (port : Nat)
  | listing
  /-- At the head of the loop, with the listing and the ports it lost. -/
  | picking (used refused : Finset Nat)
  | taking (used refused : Finset Nat) (port : Nat)
  /-- The port is reserved; the credential and the sandbox are being made. -/
  | booting (listener : Nat)
  | publishing (listener target : Nat)
  | replacing (listener target : Nat)
  | creating (listener target : Nat)
  /-- Publishing is over: boot, or roll back. -/
  | settling (listener : Nat) (published : Except RuntimeError Unit)
  | returned (outcome : Except RuntimeError CreateAttempt)

namespace Attempt

def held : Attempt → Option Nat
  | booting listener | publishing listener _ | replacing listener _ | creating listener _
  | settling listener _ => some listener
  | _ => none

def listed : Attempt → Option (Finset Nat)
  | picking used _ | taking used _ _ => some used
  | _ => none

def inFlight : Attempt → Bool
  | idle | returned _ => false
  | _ => true

end Attempt

/-- What an attempt returns once it is published, or failed to be. -/
def attemptOutcome (published running : Except RuntimeError Unit) :
    Except RuntimeError CreateAttempt :=
  match published with
  | .ok () => running.map fun () => .done
  | .error (.nameConflict message) => .ok (.portRace (RuntimeError.nameConflict message).display)
  | .error cause => .error cause

/-! ### The agent and the substrate -/

structure Ports where
  config : IngressConfig
  ingresses : List Ingress
  reservations : Finset Nat
  attempts : String → Attempt
  /-- The names attempts were made for. -/
  names : List String
  /-- Every answer of the substrate to `create_ingress`. -/
  answers : List (String × CreateAnswer)

inductive PortLabel where
  | begin (name : String)
  | getIngress (name : String)
  | listIngresses (name : String)
  | pick (name : String)
  | take (name : String)
  | boot (name : String) (specPort : Option Nat)
  /-- The object is deleted, and the answer may be lost. -/
  | deleteIngress (name : String) (lost : Option RuntimeError)
  /-- The request is decided, with this text if it is refused, and the answer may be lost. -/
  | createIngress (name body : String) (lost : Option RuntimeError)
  /-- What the attempt was about to do fails, and has no effect. -/
  | fails (name : String) (cause : RuntimeError)
  /-- The attempt returns, and its reservation is dropped. -/
  | returns (name : String) (running : Except RuntimeError Unit)
  /-- A destroy deletes the object of an instance no attempt is made for. -/
  | destroy (name : String)
  | restart (config : IngressConfig)

namespace Ports

def initial (config : IngressConfig) : Ports := ⟨config, [], ∅, fun _ => .idle, [], []⟩

def usedPorts (ports : Ports) : Finset Nat := (ports.ingresses.flatMap Ingress.ports).toFinset

def getIngress (ports : Ports) (name : String) : Option Ingress :=
  ports.ingresses.find? (·.name = name)

def enter (ports : Ports) (name : String) (attempt : Attempt) : Ports :=
  { ports with attempts := Function.update ports.attempts name attempt }

def without (ports : Ports) (name : String) : Ports :=
  { ports with ingresses := ports.ingresses.filter (·.name ≠ name) }

def ruleOf (ports : Ports) (name : String) (listener target : Nat) : IngressRule :=
  ⟨⟨ports.config.advertiseHost, some listener⟩, name, target⟩

/-- What the substrate makes of a request: a name is unique, and so is a port of a host name. -/
def arbitrate (ports : Ports) (name : String) (rule : IngressRule) : CreateAnswer :=
  if ports.ingresses.any (·.name = name) then .nameTaken
  else if ports.ingresses.any fun ingress => ingress.rules.any fun held =>
    held.match.hostname = rule.match.hostname ∧ held.listener = rule.listener then .portInUse
  else .created

def answer (ports : Ports) (name : String) (rule : IngressRule) : Ports :=
  let decided := ports.arbitrate name rule
  { ports with
    ingresses := if decided = .created then ports.ingresses ++ [⟨name, [rule]⟩] else ports.ingresses
    answers := ports.answers ++ [(name, decided)] }

def createResult (name : String) (listener : Nat) (body : String) (decided : CreateAnswer)
    (lost : Option RuntimeError) : Except RuntimeError Unit :=
  match lost, decided with
  | some cause, _ => .error cause
  | none, .created => .ok ()
  | none, _ => .error (.nameConflict s!"ingress '{name}' on port {listener}: {body}")

def tryTake (ports : Ports) (name : String) (port : Nat) (lost : Attempt) : Ports :=
  if port ∈ ports.reservations then ports.enter name lost
  else { ports.enter name (.booting port) with reservations := insert port ports.reservations }

def readIngress (ports : Ports) (name : String) : Option Ports :=
  match ports.attempts name with
  | .reading => some <| ports.enter name <|
      match ports.getIngress name with
      | some existing =>
        match listenerPortOf existing with
        | .ok port => .sticky port
        | .error cause => .returned (.error cause)
      | none => .listing
  | .publishing listener target => some <| ports.enter name <|
      match ports.getIngress name with
      | some existing =>
        match listenerPortOf existing with
        | .ok port =>
          if port = listener ∧ (existing.rules.head?.map (·.target.port)) = some target then
            .settling listener (.ok ())
          else .replacing listener target
        | .error cause => .settling listener (.error cause)
      | none => .creating listener target
  | _ => none

def exhausted (config : IngressConfig) : RuntimeError :=
  .other <| s!"no free ingress port in {config.first}-{config.last}: every listener in the configured " ++
    "range is taken. Widen BARISTA_INGRESS_PORTS or destroy instances"

def lostSticky (name : String) (port : Nat) : RuntimeError :=
  .nameConflict <| s!"ingress '{name}' on port {port}: another create for this sandbox is publishing it"

/-- Fail where an attempt is: before it holds a port it returns, and afterwards it rolls back. -/
def failAttempt : Attempt → RuntimeError → Option Attempt
  | .reading, cause | .listing, cause => some (.returned (.error cause))
  | .booting listener, cause | .publishing listener _, cause | .replacing listener _, cause
  | .creating listener _, cause => some (.settling listener (.error cause))
  | _, _ => none

def next (ports : Ports) : PortLabel → Option Ports
  | .begin name =>
    if (ports.attempts name).inFlight then none
    else some { ports.enter name .reading with names := name :: ports.names }
  | .getIngress name => ports.readIngress name
  | .listIngresses name =>
    match ports.attempts name with
    | .listing => some (ports.enter name (.picking ports.usedPorts ∅))
    | _ => none
  | .pick name =>
    match ports.attempts name with
    | .picking used refused => some <| ports.enter name <|
        -- The reservations are read here, and again when the port is taken.
        match pickPort ports.config (used ∪ ports.reservations ∪ refused) with
        | some port => .taking used refused port
        | none => .returned (.error (exhausted ports.config))
    | _ => none
  | .take name =>
    match ports.attempts name with
    | .sticky port => some (ports.tryTake name port (.returned (.error (lostSticky name port))))
    | .taking used refused port =>
        some (ports.tryTake name port (.picking used (insert port refused)))
    | _ => none
  | .boot name specPort =>
    match ports.attempts name with
    | .booting listener => some (ports.enter name (.publishing listener (specPort.getD listener)))
    | _ => none
  | .deleteIngress name lost =>
    match ports.attempts name with
    | .replacing listener target => some <| (ports.without name).enter name <|
        match lost with
        | some cause => .settling listener (.error cause)
        | none => .creating listener target
    | _ => none
  | .createIngress name body lost =>
    match ports.attempts name with
    | .creating listener target =>
      let rule := ports.ruleOf name listener target
      some <| (ports.answer name rule).enter name <|
        .settling listener (createResult name listener body (ports.arbitrate name rule) lost)
    | _ => none
  | .fails name cause => (failAttempt (ports.attempts name) cause).map (ports.enter name)
  | .returns name running =>
    match ports.attempts name with
    | .settling listener published => some
        { ports.enter name (.returned (attemptOutcome published running)) with
          reservations := ports.reservations.erase listener }
    | _ => none
  | .destroy name => if (ports.attempts name).inFlight then none else some (ports.without name)
  | .restart config =>
      some { ports with config := config, reservations := ∅, attempts := fun _ => .idle }

def reach (config : IngressConfig) (labels : List PortLabel) :
    Option Ports := run next (initial config) labels

/-! ### What a step can do -/

variable {ports after : Ports} {name other : String} {port : Nat} {attempt : Attempt}

theorem attempts_enter : (ports.enter name attempt).attempts other =
    if other = name then attempt else ports.attempts other :=
  Function.update_apply ..

@[simp] theorem attempts_enter_self : (ports.enter name attempt).attempts name = attempt :=
  Function.update_self ..

theorem attempts_enter_of_ne (distinct : other ≠ name) :
    (ports.enter name attempt).attempts other = ports.attempts other :=
  Function.update_of_ne distinct ..

@[simp] theorem attempts_answer (rule : IngressRule) :
    (ports.answer name rule).attempts = ports.attempts := rfl

theorem mem_usedPorts : port ∈ ports.usedPorts ↔ ∃ ingress ∈ ports.ingresses,
    port ∈ ingress.ports := by
  simp [usedPorts]

/-- An attempt goes on without a change to its reservation or to an object. A listing it takes up is
this moment's, a port it picks is not in the listing, and a port it finds is its own object's. -/
structure GoesOn (ports : Ports) (name : String) (attempt : Attempt) : Prop where
  held : attempt.held = (ports.attempts name).held
  listed : ∀ used, attempt.listed = some used →
    (ports.attempts name).listed = some used ∨ used = ports.usedPorts
  fresh : ∀ used refused port, attempt = .taking used refused port → port ∉ used
  sticky : ∀ port, attempt = .sticky port →
    ∃ ingress ∈ ports.ingresses, ingress.name = name ∧ port ∈ ingress.ports

inductive Change (ports : Ports) : PortLabel → Ports → Prop
  | goesOn {label : PortLabel} {name : String} {attempt : Attempt}
    (begun : ports.attempts name ≠ .idle)
      (on : GoesOn ports name attempt) : Change ports label (ports.enter name attempt)
  | begins {name : String} (quiet : (ports.attempts name).inFlight = false) :
      Change ports (.begin name) { ports.enter name .reading with names := name :: ports.names }
  | takes {name : String} {port : Nat} (free : port ∉ ports.reservations)
      (planned : ports.attempts name = .sticky port ∨
        ∃ used refused, ports.attempts name = .taking used refused port) :
      Change ports (.take name)
        { ports.enter name (.booting port) with reservations := insert port ports.reservations }
  | removes {label : PortLabel} {name : String} {attempt : Attempt}
      (before : ∀ port, ports.attempts name ≠ .sticky port)
      (begun : attempt ≠ .idle → ports.attempts name ≠ .idle)
        (on : GoesOn (ports.without name) name attempt) :
      Change ports label ((ports.without name).enter name attempt)
  | creates {name body : String} {lost : Option RuntimeError} {listener target : Nat}
      {published : Except RuntimeError Unit}
      (creating : ports.attempts name = .creating listener target) :
      Change ports (.createIngress name body lost)
        ((ports.answer name (ports.ruleOf name listener target)).enter name
        (.settling listener published))
  | returns {name : String} {running published : Except RuntimeError Unit} {listener : Nat}
      {outcome : Except RuntimeError CreateAttempt}
      (settling : ports.attempts name = .settling listener published) :
      Change ports (.returns name running)
        { ports.enter name (.returned outcome) with
        reservations := ports.reservations.erase listener }
  | restarts {config : IngressConfig} :
      Change ports (.restart config)
        { ports with config := config, reservations := ∅, attempts := fun _ => .idle }

theorem GoesOn.plainly (held : attempt.held = (ports.attempts name).held)
    (unlisted : attempt.listed = none)
    (unstuck : ∀ port, attempt ≠ .sticky port) : GoesOn ports name attempt where
  held := held
  listed := by
    intro used listed
    rw [unlisted] at listed
    cases listed
  fresh := by
    rintro used refused port rfl
    cases unlisted
  sticky := fun port stuck => absurd stuck (unstuck port)

variable {ingress : Ingress}

theorem mem_of_getIngress (found : ports.getIngress name = some ingress) :
    ingress ∈ ports.ingresses ∧ ingress.name = name := by
  unfold getIngress at found
  have named := List.find?_some found
  exact ⟨List.mem_of_find?_eq_some found, of_decide_eq_true named⟩

theorem mem_ports_of_listenerPortOf (read : listenerPortOf ingress = .ok port) :
    port ∈ ingress.ports := by
  unfold listenerPortOf at read
  split at read
  · next rule only =>
      cases read
      rw [Ingress.ports, only]
      exact List.mem_singleton_self _
  · cases read

variable {label : PortLabel}

theorem Change.of_readIngress (step : ports.readIngress name = some after) :
    Change ports label after := by
  unfold readIngress at step
  split at step
  · next reading =>
      cases step
      refine .goesOn (by rw [reading]; nofun) ?_
      split
      · next existing found =>
          split
          · next found_ read =>
              refine ⟨by rw [reading]; rfl, nofun, nofun, ?_⟩
              rintro _ ⟨⟩
              have own := mem_of_getIngress found
              exact ⟨existing, own.1, own.2, mem_ports_of_listenerPortOf read⟩
          · exact .plainly (by rw [reading]; rfl) rfl nofun
      · exact .plainly (by rw [reading]; rfl) rfl nofun
  · next listener target publishing =>
      cases step
      refine .goesOn (by rw [publishing]; nofun) ?_
      have same : (ports.attempts name).held = some listener := by
        rw [publishing]
        rfl
      split
      · split
        · split
          · exact .plainly same.symm rfl nofun
          · exact .plainly same.symm rfl nofun
        · exact .plainly same.symm rfl nofun
      · exact .plainly same.symm rfl nofun
  · cases step

theorem Change.of_tryTake (planned : ports.attempts name = .sticky port ∨
      ∃ used refused, ports.attempts name = .taking used refused port)
    {lost : Attempt} (on : GoesOn ports name lost) :
    Change ports (.take name) (ports.tryTake name port lost) := by
  unfold tryTake
  split
  · refine .goesOn ?_ on
    rcases planned with sticky | ⟨used, refused, taking⟩
    · rw [sticky]
      nofun
    · rw [taking]
      nofun
  · next free => exact .takes free planned

theorem Change.of_fails {cause : RuntimeError}
    (failed : failAttempt (ports.attempts name) cause = some attempt) :
    Change ports (.fails name cause) (ports.enter name attempt) := by
  cases at_ : ports.attempts name <;> rw [at_] at failed <;> cases failed
  all_goals exact .goesOn (by rw [at_]; nofun) (.plainly (by rw [at_]; rfl) rfl nofun)

theorem change_of_next (step : ports.next label = some after) : Change ports label after := by
  cases label with
  | begin name =>
    simp only [next, Option.ite_none_left_eq_some, Option.some.injEq] at step
    obtain ⟨quiet, rfl⟩ := step
    exact .begins (Bool.eq_false_iff.mpr quiet)
  | getIngress name => exact .of_readIngress step
  | listIngresses name =>
    simp only [next] at step
    split at step
    · next listing =>
        cases step
        refine .goesOn (by rw [listing]; nofun) ⟨by rw [listing]; rfl, ?_, nofun, nofun⟩
        rintro used ⟨⟩
        exact .inr rfl
    · cases step
  | pick name =>
    simp only [next] at step
    split at step
    · next used refused picking =>
        cases step
        refine .goesOn (by rw [picking]; nofun) ?_
        split
        · next port picked =>
            refine ⟨by rw [picking]; rfl, ?_, ?_, nofun⟩
            · rintro _ ⟨⟩
              rw [picking]
              exact .inl rfl
            · rintro _ _ _ ⟨⟩
              have free := not_mem_of_pickPort picked
              simp only [Finset.mem_union, not_or] at free
              exact free.1.1
        · exact .plainly (by rw [picking]; rfl) rfl nofun
    · cases step
  | take name =>
    simp only [next] at step
    split at step
    · next port sticky =>
        cases step
        exact .of_tryTake (.inl sticky) (.plainly (by rw [sticky]; rfl) rfl nofun)
    · next used refused port taking =>
        cases step
        refine .of_tryTake (.inr ⟨used, refused, taking⟩) ⟨by rw [taking]; rfl, ?_, nofun, nofun⟩
        rintro _ ⟨⟩
        rw [taking]
        exact .inl rfl
    · cases step
  | boot name specPort =>
    simp only [next] at step
    split at step
    · next booting =>
        cases step
        exact .goesOn (by rw [booting]; nofun) (.plainly (by rw [booting]; rfl) rfl nofun)
    · cases step
  | deleteIngress name lost =>
    simp only [next] at step
    split at step
    · next replacing =>
        cases step
        have same : ((ports.without name).attempts name).held = (ports.attempts name).held := rfl
        refine .removes (by rw [replacing]; nofun) (fun _ => by rw [replacing]; nofun) ?_
        cases lost with
        | some cause => exact .plainly (by rw [same, replacing]; rfl) rfl nofun
        | none => exact .plainly (by rw [same, replacing]; rfl) rfl nofun
    · cases step
  | createIngress name body lost =>
    simp only [next] at step
    split at step
    · next creating =>
        cases step
        exact .creates creating
    · cases step
  | fails name cause =>
    obtain ⟨attempt, failed, rfl⟩ := Option.map_eq_some_iff.mp step
    exact .of_fails failed
  | returns name running =>
    simp only [next] at step
    split at step
    · next settling =>
        cases step
        exact .returns settling
    · cases step
  | destroy name =>
    simp only [next, Option.ite_none_left_eq_some, Option.some.injEq] at step
    obtain ⟨quiet, rfl⟩ := step
    have kept : ports.without name = (ports.without name).enter name (ports.attempts name) := by
      rw [enter, without, Function.update_eq_self]
    rw [kept]
    have unlisted : (ports.attempts name).listed = none := by
      cases at_ : ports.attempts name <;> rw [at_] at quiet <;> first | rfl | exact absurd rfl quiet
    have unstuck : ∀ port, ports.attempts name ≠ .sticky port := by
      intro port stuck
      rw [stuck] at quiet
      exact quiet rfl
    exact .removes unstuck id (.plainly rfl unlisted unstuck)
  | restart config =>
    cases step
    exact .restarts

/-! ### Reservations -/

/-- The reservations are the ports attempts hold, one attempt each. -/
structure Reserving (ports : Ports) : Prop where
  reserved : ∀ port, port ∈ ports.reservations ↔ ∃ name, (ports.attempts name).held = some port
  apart : ∀ {first second : String} {port : Nat}, (ports.attempts first).held = some port →
    (ports.attempts second).held = some port → first = second

theorem Reserving.initial (config : IngressConfig) : Reserving (initial config) where
  reserved := fun _ => ⟨nofun, fun ⟨_, held⟩ => nomatch held⟩
  apart := nofun

theorem Reserving.of_held (reserving : Reserving ports)
    (set : after.reservations = ports.reservations)
    (held : ∀ name, (after.attempts name).held = (ports.attempts name).held) : Reserving after where
  reserved := by
    intro port
    simp only [set, held]
    exact reserving.reserved port
  apart := by
    intro first second port
    simp only [held]
    exact reserving.apart

theorem held_enter (same : attempt.held = (ports.attempts name).held) (other : String) :
    ((ports.enter name attempt).attempts other).held = (ports.attempts other).held := by
  rw [attempts_enter]
  split
  · next equal => rw [same, equal]
  · rfl

theorem Reserving.take (reserving : Reserving ports) (free : port ∉ ports.reservations)
    (none_ : (ports.attempts name).held = none) :
    Reserving { ports.enter name (.booting port) with
      reservations := insert port ports.reservations } := by
  have others : ∀ other taken, other ≠ name →
      (((ports.enter name (.booting port)).attempts other).held = some taken ↔
        (ports.attempts other).held = some taken) := by
    intro other taken distinct
    rw [attempts_enter_of_ne distinct]
  have notHeld : ∀ other, (ports.attempts other).held ≠ some port :=
    fun other held => free ((reserving.reserved port).mpr ⟨other, held⟩)
  refine ⟨fun taken => ?_, ?_⟩
  · rw [Finset.mem_insert, reserving.reserved taken]
    constructor
    · rintro (rfl | ⟨other, held⟩)
      · exact ⟨name, by rw [attempts_enter_self]; rfl⟩
      · have distinct : other ≠ name := by
          rintro rfl
          rw [none_] at held
          cases held
        exact ⟨other, (others other taken distinct).mpr held⟩
    · rintro ⟨other, held⟩
      by_cases equal : other = name
      · subst equal
        rw [attempts_enter_self] at held
        cases held
        exact .inl rfl
      · exact .inr ⟨other, (others other taken equal).mp held⟩
  · intro first second taken firstHeld secondHeld
    by_cases firstIs : first = name <;> by_cases secondIs : second = name
    · rw [firstIs, secondIs]
    · subst firstIs
      rw [attempts_enter_self] at firstHeld
      cases firstHeld
      exact absurd ((others second port secondIs).mp secondHeld) (notHeld second)
    · subst secondIs
      rw [attempts_enter_self] at secondHeld
      cases secondHeld
      exact absurd ((others first port firstIs).mp firstHeld) (notHeld first)
    · exact reserving.apart ((others first taken firstIs).mp firstHeld)
        ((others second taken secondIs).mp secondHeld)

theorem Reserving.drop (reserving : Reserving ports) (held : (ports.attempts name).held = some port)
    (released : attempt.held = none) :
    Reserving { ports.enter name attempt with reservations := ports.reservations.erase port } := by
  have kept : ∀ other taken, ((ports.enter name attempt).attempts other).held = some taken ↔
      other ≠ name ∧ (ports.attempts other).held = some taken := by
    intro other taken
    rw [attempts_enter]
    split
    · next equal => simp [released, equal]
    · next distinct => simp [distinct]
  refine ⟨fun taken => ?_, ?_⟩
  · simp only [kept, Finset.mem_erase, reserving.reserved taken]
    constructor
    · rintro ⟨distinct, other, otherHeld⟩
      refine ⟨other, ?_, otherHeld⟩
      rintro rfl
      rw [held, Option.some.injEq] at otherHeld
      exact distinct otherHeld.symm
    · rintro ⟨other, distinct, otherHeld⟩
      refine ⟨?_, other, otherHeld⟩
      rintro rfl
      exact distinct (reserving.apart otherHeld held)
  · intro first second taken firstHeld secondHeld
    exact reserving.apart ((kept first taken).mp firstHeld).2 ((kept second taken).mp secondHeld).2

theorem Reserving.step (reserving : Reserving ports) (step : ports.next label = some after) :
    Reserving after := by
  cases change_of_next step with
  | goesOn begun on => exact reserving.of_held rfl (held_enter on.held)
  | begins quiet =>
    refine reserving.of_held rfl (held_enter ?_)
    cases at_ : ports.attempts _ <;> rw [at_] at quiet <;> first | rfl | cases quiet
  | takes free planned =>
    refine reserving.take free ?_
    rcases planned with sticky | ⟨used, refused, taking⟩
    · rw [sticky]
      rfl
    · rw [taking]
      rfl
  | removes before begun on => exact reserving.of_held rfl (held_enter on.held)
  | creates creating =>
    refine reserving.of_held rfl (held_enter ?_)
    rw [attempts_answer, creating]
    rfl
  | returns settling =>
    refine reserving.drop ?_ rfl
    rw [settling]
    rfl
  | restarts => exact ⟨fun _ => ⟨nofun, fun ⟨_, held⟩ => nomatch held⟩, nofun⟩

/-! ### The hand-over -/

/-- A reservation is dropped only when every attempt that is still choosing by a listing finds the port in
that listing, or when no object listens on the port. -/
def handsOver (ports : Ports) : PortLabel → Bool
  | .returns name _ =>
    match ports.attempts name with
    | .settling listener _ => ports.names.all fun other =>
      match (ports.attempts other).listed with
      | some used => listener ∉ ports.usedPorts ∨ listener ∈ used
      | none => true
    | _ => true
  | _ => true

/-- No port is in the hands of two: not of two objects, not of an object and of another name's attempt,
and not of an object and of an attempt that has yet to choose. -/
structure Clear (ports : Ports) : Prop where
  named : ∀ name, ports.attempts name ≠ .idle → name ∈ ports.names
  covered : ∀ name used, (ports.attempts name).listed = some used →
    ∀ port ∈ ports.usedPorts, port ∈ used ∨ port ∈ ports.reservations
  fresh : ∀ name used refused port, ports.attempts name = .taking used refused port → port ∉ used
  own : ∀ name port, (ports.attempts name).held = some port →
    ∀ ingress ∈ ports.ingresses, port ∈ ingress.ports → ingress.name = name
  single : ∀ first ∈ ports.ingresses, ∀ second ∈ ports.ingresses, ∀ port ∈ first.ports,
    port ∈ second.ports → first.name = second.name
  sticky : ∀ name port, ports.attempts name = .sticky port →
    ∃ ingress ∈ ports.ingresses, ingress.name = name ∧ port ∈ ingress.ports
  unrefused : ∀ name, (name, .portInUse) ∉ ports.answers

theorem Clear.initial (config : IngressConfig) : Clear (initial config) where
  named := fun _ begun => absurd rfl begun
  covered := nofun
  fresh := nofun
  own := nofun
  single := nofun
  sticky := nofun
  unrefused := nofun

structure Fits (ports : Ports) (name : String) (attempt : Attempt) : Prop where
  named : attempt ≠ .idle → name ∈ ports.names
  covered : ∀ used, attempt.listed = some used →
    ∀ port ∈ ports.usedPorts, port ∈ used ∨ port ∈ ports.reservations
  fresh : ∀ used refused port, attempt = .taking used refused port → port ∉ used
  own : ∀ port, attempt.held = some port →
    ∀ ingress ∈ ports.ingresses, port ∈ ingress.ports → ingress.name = name
  sticky : ∀ port, attempt = .sticky port →
    ∃ ingress ∈ ports.ingresses, ingress.name = name ∧ port ∈ ingress.ports

theorem Clear.fits (clear : Clear ports) (name : String) : Fits ports name (ports.attempts name) :=
  ⟨clear.named name, clear.covered name, clear.fresh name, clear.own name, clear.sticky name⟩

theorem Clear.enter (clear : Clear ports) (fits : Fits ports name attempt) :
    Clear (ports.enter name attempt) := by
  have each : ∀ other, Fits ports other ((ports.enter name attempt).attempts other) := by
    intro other
    rw [attempts_enter]
    split
    · next equal => exact equal ▸ fits
    · exact clear.fits other
  exact ⟨fun other => (each other).named, fun other => (each other).covered, fun other =>
    (each other).fresh,
    fun other => (each other).own, clear.single, fun other => (each other).sticky, clear.unrefused⟩

theorem Clear.goesOn (clear : Clear ports) (begun : attempt ≠ .idle → ports.attempts name ≠ .idle)
    (on : GoesOn ports name attempt) : Fits ports name attempt where
  named := fun notIdle => clear.named name (begun notIdle)
  covered := by
    intro used listed port inUse
    rcases on.listed used listed with before | rfl
    · exact clear.covered name used before port inUse
    · exact .inl inUse
  fresh := on.fresh
  own := by
    intro port held
    rw [on.held] at held
    exact clear.own name port held
  sticky := on.sticky

theorem Clear.note (clear : Clear ports) (name : String) :
    Clear { ports with names := name :: ports.names } :=
  ⟨fun other begun => List.mem_cons_of_mem _ (clear.named other begun), clear.covered,
    clear.fresh, clear.own,
    clear.single, clear.sticky, clear.unrefused⟩

theorem Clear.reserve (clear : Clear ports) (port : Nat) :
    Clear { ports with reservations := insert port ports.reservations } := by
  refine ⟨clear.named, ?_, clear.fresh, clear.own, clear.single, clear.sticky, clear.unrefused⟩
  intro name used listed taken inUse
  exact (clear.covered name used listed taken inUse).imp_right Finset.mem_insert_of_mem

theorem Clear.planned (clear : Clear ports) (free : port ∉ ports.reservations)
    (planned : ports.attempts name = .sticky port ∨
      ∃ used refused, ports.attempts name = .taking used refused port)
    (member : ingress ∈ ports.ingresses) (listens : port ∈ ingress.ports) :
    ingress.name = name := by
  rcases planned with sticky | ⟨used, refused, taking⟩
  · obtain ⟨existing, existingAt, named, serves⟩ := clear.sticky name port sticky
    rw [← named]
    exact clear.single ingress member existing existingAt port listens serves
  · have listed : (ports.attempts name).listed = some used := by
      rw [taking]
      rfl
    have inUse : port ∈ ports.usedPorts := mem_usedPorts.mpr ⟨ingress, member, listens⟩
    have notListed : port ∉ used := clear.fresh name used refused port taking
    exact absurd (clear.covered name used listed port inUse) (not_or_intro notListed free)

theorem Clear.takes (clear : Clear ports) (free : port ∉ ports.reservations)
    (planned : ports.attempts name = .sticky port ∨
      ∃ used refused, ports.attempts name = .taking used refused port) :
    Clear { ports.enter name (.booting port) with
      reservations := insert port ports.reservations } := by
  have begun : ports.attempts name ≠ .idle := by
    rcases planned with sticky | ⟨used, refused, taking⟩
    · rw [sticky]
      nofun
    · rw [taking]
      nofun
  have fits : Fits { ports with reservations := insert port ports.reservations } name
    (.booting port) := by
    refine ⟨fun _ => clear.named name begun, nofun, nofun, ?_, nofun⟩
    rintro _ ⟨⟩ ingress member listens
    exact clear.planned free planned member listens
  exact (clear.reserve port).enter fits

theorem Clear.without (clear : Clear ports) (before : ∀ port, ports.attempts name ≠ .sticky port) :
    Clear (ports.without name) := by
  have fewer : ∀ {ingress}, ingress ∈ (ports.without name).ingresses → ingress ∈ ports.ingresses :=
    fun member => (List.mem_filter.mp member).1
  refine ⟨clear.named, ?_, clear.fresh, ?_, ?_, ?_, clear.unrefused⟩
  · intro other used listed taken inUse
    obtain ⟨ingress, member, listens⟩ := mem_usedPorts.mp inUse
    exact clear.covered other used listed taken (mem_usedPorts.mpr ⟨ingress, fewer member, listens⟩)
  · intro other taken held ingress member
    exact clear.own other taken held ingress (fewer member)
  · intro first firstAt second secondAt
    exact clear.single first (fewer firstAt) second (fewer secondAt)
  · intro other found stuck
    obtain ⟨ingress, member, named, serves⟩ := clear.sticky other found stuck
    refine ⟨ingress, List.mem_filter.mpr ⟨member, ?_⟩, named, serves⟩
    apply decide_eq_true
    rintro same
    rw [← named, same] at stuck
    exact before found stuck

variable {rule : IngressRule}

theorem Clear.arbitrate (clear : Clear ports) (held : (ports.attempts name).held = some port)
    (listens : rule.listener = port) : ports.arbitrate name rule ≠ .portInUse := by
  intro refused
  unfold Ports.arbitrate at refused
  split at refused
  · cases refused
  · next nameFree =>
      split at refused
      · next inUse =>
          obtain ⟨ingress, member, other, otherAt, -, same⟩ : ∃ ingress ∈ ports.ingresses,
              ∃ other ∈ ingress.rules, other.match.hostname = rule.match.hostname ∧
                other.listener = rule.listener := by
            simpa using inUse
          have serves : port ∈ ingress.ports := by
            rw [← listens, ← same]
            exact List.mem_map_of_mem otherAt
          have named := clear.own name port held ingress member serves
          exact nameFree (List.any_eq_true.mpr ⟨ingress, member, decide_eq_true named⟩)
      · cases refused

theorem mem_answer (member : ingress ∈ (ports.answer name rule).ingresses) :
    ingress ∈ ports.ingresses ∨ ingress = ⟨name, [rule]⟩ := by
  simp only [answer] at member
  split at member
  · simpa using member
  · exact .inl member

theorem subset_answer (member : ingress ∈ ports.ingresses) :
    ingress ∈ (ports.answer name rule).ingresses := by
  simp only [answer]
  split
  · exact List.mem_append_left _ member
  · exact member

theorem Clear.answer (clear : Clear ports) (reserving : Reserving ports)
    (held : (ports.attempts name).held = some port) (listens : rule.listener = port) :
    Clear (ports.answer name rule) := by
  have mine : ∀ {taken}, taken ∈ Ingress.ports ⟨name, [rule]⟩ → taken = port := by
    intro taken member
    rw [← listens]
    exact List.mem_singleton.mp member
  have owned : ∀ other taken, (ports.attempts other).held = some taken →
      ∀ ingress ∈ (ports.answer name rule).ingresses, taken ∈ ingress.ports →
      ingress.name = other := by
    intro other taken otherHeld ingress member serves
    rcases mem_answer member with old | rfl
    · exact clear.own other taken otherHeld ingress old serves
    · rw [mine serves] at otherHeld
      exact reserving.apart held otherHeld
  refine ⟨clear.named, ?_, clear.fresh, owned, ?_, ?_, ?_⟩
  · intro other used listed taken inUse
    obtain ⟨ingress, member, serves⟩ := mem_usedPorts.mp inUse
    rcases mem_answer member with old | rfl
    · exact clear.covered other used listed taken (mem_usedPorts.mpr ⟨ingress, old, serves⟩)
    · rw [mine serves]
      exact .inr ((reserving.reserved port).mpr ⟨name, held⟩)
  · intro first firstAt second secondAt taken firstServes secondServes
    rcases mem_answer firstAt with firstOld | rfl <;> rcases mem_answer secondAt with
      secondOld | rfl
    · exact clear.single first firstOld second secondOld taken firstServes secondServes
    · rw [mine secondServes] at firstServes
      exact clear.own name port held first firstOld firstServes
    · rw [mine firstServes] at secondServes
      exact (clear.own name port held second secondOld secondServes).symm
    · rfl
  · intro other found stuck
    obtain ⟨ingress, member, named, serves⟩ := clear.sticky other found stuck
    exact ⟨ingress, subset_answer member, named, serves⟩
  · intro other answered
    rcases List.mem_append.mp answered with before | now
    · exact clear.unrefused other before
    · obtain ⟨-, refused⟩ := Prod.mk.inj (List.mem_singleton.mp now)
      exact clear.arbitrate held listens refused.symm

theorem Clear.returns (clear : Clear ports) {published : Except RuntimeError Unit}
    {running : Except RuntimeError Unit} {outcome : Except RuntimeError CreateAttempt}
    (settling : ports.attempts name = .settling port published)
    (handsOver : ports.handsOver (.returns name running) = true) :
    Clear { ports.enter name (.returned outcome) with
      reservations := ports.reservations.erase port } := by
  have begun : ports.attempts name ≠ .idle := by
    rw [settling]
    nofun
  have entered : Clear (ports.enter name (.returned outcome)) :=
    clear.enter ⟨fun _ => clear.named name begun, nofun, nofun, nofun, nofun⟩
  refine ⟨entered.named, ?_, entered.fresh, entered.own, entered.single, entered.sticky,
    entered.unrefused⟩
  intro other used listed taken inUse
  by_cases dropped : taken = port
  · left
    have distinct : other ≠ name := by
      rintro rfl
      rw [attempts_enter_self] at listed
      cases listed
    rw [attempts_enter_of_ne distinct] at listed
    have otherBegun : ports.attempts other ≠ .idle := by
      intro idle
      rw [idle] at listed
      cases listed
    simp only [Ports.handsOver, settling, List.all_eq_true] at handsOver
    have seen := handsOver other (clear.named other otherBegun)
    rw [listed] at seen
    rw [dropped] at inUse ⊢
    exact (of_decide_eq_true seen).resolve_left (not_not_intro inUse)
  · exact (entered.covered other used listed taken inUse).imp_right fun reserved =>
      Finset.mem_erase.mpr ⟨dropped, reserved⟩

theorem Clear.step (clear : Clear ports) (reserving : Reserving ports)
    (handsOver : ports.handsOver label = true) (step : ports.next label = some after) :
    Clear after := by
  cases change_of_next step with
  | goesOn begun on => exact clear.enter (clear.goesOn (fun _ => begun) on)
  | begins quiet =>
    exact (clear.note _).enter ⟨fun _ => List.mem_cons_self, nofun, nofun, nofun, nofun⟩
  | takes free planned => exact clear.takes free planned
  | removes before begun on =>
    have removed := clear.without before
    exact removed.enter (removed.goesOn begun on)
  | @creates name _ _ listener target _ creating =>
    have listens : (ports.ruleOf name listener target).listener = listener := rfl
    have answered := clear.answer reserving (congrArg Attempt.held creating) listens
    refine answered.enter (answered.goesOn (fun _ => ?_) (.plainly ?_ rfl nofun))
    · rw [attempts_answer, creating]
      nofun
    · rw [attempts_answer, creating]
      rfl
  | returns settling => exact clear.returns settling handsOver
  | restarts =>
    exact ⟨fun _ begun => absurd rfl begun, nofun, nofun, nofun, clear.single, nofun,
      clear.unrefused⟩

/-- **Two attempts never hold one port, and no publish is refused for its port** where every
reservation is handed over. -/
theorem creates_never_collide (config : IngressConfig) (labels : List PortLabel) (ports : Ports)
    (reached : reach config labels = some ports) :
    (∀ first second port, (ports.attempts first).held = some port →
      (ports.attempts second).held = some port → first = second) ∧
    (Along next (fun before label _ => before.handsOver label = true) (initial config) labels →
      ∀ name, (name, .portInUse) ∉ ports.answers) := by
  constructor
  · intro first second port
    exact (run_invariant Reserving.step (.initial config) reached).apart
  · intro handedOver
    have both : Reserving ports ∧ Clear ports := by
      refine handedOver.invariant (I := fun ports => Reserving ports ∧ Clear ports) ?_
        ⟨.initial config, .initial config⟩ reached
      intro before label after invariant step here
      exact ⟨invariant.1.step step, invariant.2.step invariant.1 here step⟩
    exact both.2.unrefused

/-! ### Two creates beside each other -/

def sampleConfig : IngressConfig := ⟨"node.example", 30000, 30010, by decide, by decide⟩

/-- Plan a port for a name, from the first read to the listing. -/
def lists (name : String) : List PortLabel := [.begin name, .getIngress name, .listIngresses name]

def chooses (name : String) : List PortLabel := [.pick name, .take name, .boot name none]

def publishes (name : String) : List PortLabel :=
  [.getIngress name, .createIngress name "hostname and port in use" none, .returns name (.ok ())]

/-- The second create lists before the first is published, and chooses before it returns. -/
def handedOver : List PortLabel :=
  lists "a" ++ lists "b" ++ chooses "a" ++ chooses "b" ++ publishes "a" ++ publishes "b"

theorem handedOver_never_collides : ∃ ports, reach sampleConfig handedOver = some ports ∧
    ports.answers = [("a", .created), ("b", .created)] ∧ ∀ name, (name, .portInUse) ∉
      ports.answers := by
  obtain ⟨ran, along⟩ : ((reach sampleConfig handedOver).any fun ports =>
      ports.answers = [("a", .created), ("b", .created)]) = true ∧
      Along next (fun before label _ => before.handsOver label = true) (initial sampleConfig)
        handedOver := by
    decide +kernel
  obtain ⟨ports, reached, answered⟩ := exists_of_any ran
  exact ⟨ports, reached, answered,
    (creates_never_collide sampleConfig handedOver ports reached).2 along⟩

/-- The second create lists before the first is published, and reads the reservations after it has
returned. -/
def overlooked : List PortLabel :=
  lists "a" ++ chooses "a" ++ lists "b" ++ publishes "a" ++ chooses "b" ++ publishes "b"

/-- **A publish is refused because another of this agent's objects holds the port.** -/
theorem publish_refused_for_port : ∃ ports, reach sampleConfig overlooked = some ports ∧
    ports.answers = [("a", .created), ("b", .portInUse)] :=
  exists_of_any (by decide +kernel)

end Ports

end Barista.Node.Hypeman
