import Barista.Foundation.History
import Barista.Node.FleetPhase

/-!
Contract: the sweeps that keep the substrate to what the registry knows.

A sweep asks the substrate what it holds, asks the journal which instances are live, and removes
what belongs to no live one. The sweep of sandboxes also reduces the sandboxes of a live instance
to one, unless a fork may be at work on them. Crash recovery ends with a sweep of its own.

Owns: the three sweeps as programs, the reading of forks in flight, and what every removal rests on.
Does not own: when a sweep runs, and what happens between its reads.
-/

namespace Barista.Node

open Foundation Fleet
open Prog (Heeds Emits)

/-! ### Forks in flight -/

/-- `str::split_whitespace`, over the text's characters. -/
def splitWhitespace (text : List Char) : List (List Char) :=
  (text.splitOnP isWhitespace).filter fun field => !field.isEmpty

def sourceField : List Char := "source_snapshot_id=".toList

/-- The snapshot a fork's replay descriptor branches from. -/
def sourceSnapshotOf (payload : String) : Option String :=
  ((splitWhitespace payload.toList).findSome? fun field =>
    if sourceField.isPrefixOf field then some (String.ofList (field.drop sourceField.length))
    else none).filter fun snapshotId => snapshotId ≠ ""

/-- The instances a fork in flight branches from. The row of an imported capsule names none. -/
def Journal.forkSourceInstancesInFlight (journal : Journal) : List String :=
  (journal.operations.rows.filter fun op =>
    op.kind = .fork ∧ op.executorActive).filterMap fun op => do
    let row ← (sourceSnapshotOf op.payload).bind journal.getSnapshot
    if row.instanceId = "" then none else some row.instanceId

/-! ### What a sweep asks and does -/

structure Sandbox where
  substrateId : String
  instanceId : String
  running : Bool
deriving DecidableEq, Repr

structure Credential where
  id : String
  instance_ : Option String
deriving DecidableEq, Repr

inductive SweepAct where
  | listSandboxes
  | listCredentials
  | listLabeled
  | listInstances
  | forkSourceInstancesInFlight
  | removeSandbox (substrateId : String)
  | removeCredential (id : String)
  | removeOrphan (id : String)
  | reportedUnclaimed
  | setReportedUnclaimed (ids : List String)
  | record (event : EventRow)
  /-- Crash recovery is over. -/
  | endRecovery
deriving DecidableEq

abbrev SweepSig : Signature where
  Act := SweepAct
  Ans
    | .listSandboxes => Except RuntimeError (List Sandbox)
    | .listCredentials => Except RuntimeError (List Credential)
    | .listLabeled => Except RuntimeError (List String)
    | .listInstances => Except String (List InstanceRow)
    | .forkSourceInstancesInFlight => Except String (List String)
    | .removeSandbox _ | .removeCredential _ | .removeOrphan _ => Except RuntimeError Unit
    | .reportedUnclaimed => List String
    | _ => Unit

abbrev SweepProg (α : Type) := Prog SweepSig α

/-- Whether an action asks the substrate to remove something. -/
def SweepAct.removes : SweepAct → Bool
  | removeSandbox _ | removeCredential _ | removeOrphan _ => true
  | _ => false

namespace Sweep

abbrev perform (act : SweepAct) : SweepProg (SweepSig.Ans act) := Prog.perform (S := SweepSig) act

def degradation (instanceId message : String) : SweepProg Unit :=
  perform (.record (Events.event .degradation instanceId "" message))

end Sweep

def liveInstances (rows : List InstanceRow) : List String :=
  (rows.filter fun row => !row.state.isTerminal).map InstanceRow.instanceId

/-! ### The sweep of sandboxes -/

/-- Remove one sandbox by its own id; one that will not go does not shield the rest. -/
def reapSandbox (id : String) (sandbox : Sandbox) (why : String) : SweepProg Unit := do
  match ← Sweep.perform (.removeSandbox sandbox.substrateId) with
  | .ok () =>
    Sweep.degradation id (s!"a sandbox ({sandbox.substrateId}) {why} and was reaped by the " ++
      "instance sweep; a leaked or duplicate sandbox otherwise accumulates until the node runs " ++
      "out of capacity")
  | .error _ => return ()

def reapSandboxes (id why : String) : List Sandbox → SweepProg Unit
  | [] => return ()
  | sandbox :: rest => do
      reapSandbox id sandbox why
      reapSandboxes id why rest

/-- Two running sandboxes are both somebody's workload, and only reported. -/
def degradedDuplicate (id : String) (substrateIds : List String) : SweepProg Unit :=
  let ids := ", ".intercalate substrateIds
  Sweep.degradation id (s!"more than one running sandbox is tagged for this instance " ++
    s!"({ids}) and the sweep deleted none of them: with no substrate id " ++
    "in the journal it cannot tell which carries the workload, and deleting by listing order would " ++
    "be a coin flip over a live session. Resolve it by hand, or destroy the instance if neither is " ++
    "wanted")

def byRunning (group : List Sandbox) : List Sandbox :=
  (group.filter fun sandbox => !sandbox.running) ++ group.filter Sandbox.running

/-- Judge the sandboxes tagged for one instance. Without an answer about the forks in flight, no
duplicate is reduced. -/
def sweepGroup (live : List String) (forkingSources : Option (List String)) (id : String)
    (group : List Sandbox) : SweepProg Unit :=
  if id ∉ live then reapSandboxes id "outlived its instance" group
  else if 1 < group.length then
    match forkingSources with
    | none => return ()
    | some sources =>
      if id ∈ sources then return ()
      else if 1 < group.countP Sandbox.running then
        degradedDuplicate id (group.map Sandbox.substrateId)
      else
        let kept := ((byRunning group).getLast?.map Sandbox.substrateId).getD ""
        reapSandboxes id s!"was a duplicate sandbox; kept {kept}" (byRunning group).dropLast
  else return ()

def sandboxesOf (sandboxes : List Sandbox) (id : String) : List Sandbox :=
  sandboxes.filter fun sandbox => sandbox.instanceId = id

def byInstance (sandboxes : List Sandbox) : List (String × List Sandbox) :=
  ((sandboxes.map Sandbox.instanceId).dedup.insertionSort (· ≤ ·)).map fun id =>
    (id, sandboxesOf sandboxes id)

def sweepGroups (live : List String) (forkingSources : Option (List String)) :
    List (String × List Sandbox) → SweepProg Unit
  | [] => return ()
  | (id, group) :: rest => do
      sweepGroup live forkingSources id group
      sweepGroups live forkingSources rest

/-- Reap the sandboxes of instances that are not live, and reduce the others to one each. -/
def sweepInstances : SweepProg Unit := do
  match ← Sweep.perform .listSandboxes with
  | .error _ => return ()
  | .ok sandboxes =>
    if sandboxes = [] then return ()
    else match ← Sweep.perform .listInstances with
      | .error _ => return ()
      | .ok rows => do
          let forkingSources ← Sweep.perform .forkSourceInstancesInFlight
          sweepGroups (liveInstances rows) forkingSources.toOption (byInstance sandboxes)

/-! ### The sweep of credentials -/

/-- A credential no claim can be read on is left alone. -/
def reapCredential (live : List String) (credential : Credential) : SweepProg Unit := do
  match credential.instance_ with
  | none => return ()
  | some id =>
    if id ∈ live then return ()
    else
      match ← Sweep.perform (.removeCredential credential.id) with
      | .ok () =>
        Sweep.degradation id (s!"credential '{credential.id}' outlived its instance and was " ++
          "removed by the sweep; until then it was a live token for an instance the registry " ++
          "does not hold")
      | .error _ => return ()

def reapEach (live : List String) : List Credential → SweepProg Unit
  | [] => return ()
  | credential :: rest => do
      reapCredential live credential
      reapEach live rest

def unclaimedIds (credentials : List Credential) : List String :=
  ((credentials.filter fun credential => credential.instance_ = none).map
    Credential.id).dedup.insertionSort (· ≤ ·)

/-- Unclaimed credentials are reported once per change. -/
def reportUnclaimed (unclaimed : List String) : SweepProg Unit := do
  let reported ← Sweep.perform .reportedUnclaimed
  let names := ", ".intercalate unclaimed
  if unclaimed = reported then return ()
  else do
    if unclaimed ≠ [] then
      Sweep.degradation ""
        (s!"{unclaimed.length} credential(s) carry no node claim and were left " ++
        s!"in place: {names}. This node cannot prove it owns them, so it will " ++
        "not delete them — adopt them by recreating their instance, or remove them deliberately")
    Sweep.perform (.setReportedUnclaimed unclaimed)

def reapCredentials (agent : Agent) : SweepProg Unit := do
  match ← Sweep.perform .listCredentials with
  | .error cause =>
    Sweep.degradation "" (s!"the credential sweep could not enumerate the '{agent.runtimeName}' " ++
      s!"substrate ({cause.display}); no credential was removed, and the sweep retries on the " ++
      "next interval")
  | .ok credentials =>
    if credentials = [] then return ()
    else match ← Sweep.perform .listInstances with
      | .error _ => return ()
      | .ok rows => do
          reapEach (liveInstances rows) credentials
          reportUnclaimed (unclaimedIds credentials)

/-! ### The end of crash recovery -/

def removeOrphans (known : List String) : List String → SweepProg Unit
  | [] => return ()
  | id :: rest => do
      if id ∈ known then removeOrphans known rest
      else do
        let _ ← Sweep.perform (.removeOrphan id)
        removeOrphans known rest

/-- Sandboxes unknown to the registry die. A registry that cannot be read fails the recovery, and
the boot with it. -/
def sweepOrphans (agent : Agent) : SweepProg Unit := do
  match ← Sweep.perform .listInstances with
  | .error _ => return ()
  | .ok rows => do
      match ← Sweep.perform .listLabeled with
      | .ok labeled => removeOrphans (liveInstances rows) labeled
      | .error cause =>
        Sweep.degradation "" (s!"the zero-orphan sweep could not enumerate the " ++
          s!"'{agent.runtimeName}' substrate ({cause.display}); no sandbox was removed, and the " ++
          "sweep retries on the next start")
      Sweep.perform .endRecovery

/-! ### What a removal rests on -/

inductive Sweep where
  | recovery | instances | credentials
deriving DecidableEq, Repr

def Sweep.prog (agent : Agent) : Sweep → SweepProg Unit
  | recovery => sweepOrphans agent
  | instances => sweepInstances
  | credentials => reapCredentials agent

/-- A sandbox of a live instance that is one too many: no fork is at work on the instance, at most
one of its sandboxes is running, and the one that is kept is another. -/
structure Redundant (sandboxes : List Sandbox) (forkingSources : Except String (List String))
    (sandbox : Sandbox) : Prop where
  unforked : ∃ sources, forkingSources = .ok sources ∧ sandbox.instanceId ∉ sources
  idle : (sandboxesOf sandboxes sandbox.instanceId).countP Sandbox.running ≤ 1
  several : 1 < (sandboxesOf sandboxes sandbox.instanceId).length
  spare : sandbox ∈ (byRunning (sandboxesOf sandboxes sandbox.instanceId)).dropLast

def instanceReads (sandboxes : List Sandbox) (rows : List InstanceRow)
    (forkingSources : Except String (List String)) : List (Exchange SweepSig) :=
  [⟨.listSandboxes, .ok sandboxes⟩, ⟨.listInstances, .ok rows⟩,
    ⟨.forkSourceInstancesInFlight, forkingSources⟩]

/-- What an action of a sweep rests on, read off what the sweep has heard. -/
def Sweep.RestsOn (sweep : Sweep) (history : List (Exchange SweepSig)) (act : SweepAct) : Prop :=
  match sweep, act with
  | instances, .listSandboxes => history = []
  | instances, .listInstances => ∃ sandboxes, history = [⟨.listSandboxes, .ok sandboxes⟩]
  | instances, .forkSourceInstancesInFlight => ∃ sandboxes rows,
      history = [⟨.listSandboxes, .ok sandboxes⟩, ⟨.listInstances, .ok rows⟩]
  | instances, .removeSandbox substrateId => ∃ sandboxes rows forkingSources later sandbox,
      history = instanceReads sandboxes rows forkingSources ++ later ∧ sandbox ∈ sandboxes ∧
        sandbox.substrateId = substrateId ∧ (sandbox.instanceId ∉ liveInstances rows ∨
          (sandbox.instanceId ∈ liveInstances rows ∧ Redundant sandboxes forkingSources sandbox))
  | credentials, .listCredentials => history = []
  | credentials, .listInstances => ∃ credentials, history = [⟨.listCredentials, .ok credentials⟩]
  | credentials, .removeCredential id => ∃ credentials rows later credential instance_,
      history = [⟨.listCredentials, .ok credentials⟩, ⟨.listInstances, .ok rows⟩] ++ later ∧
        credential ∈ credentials ∧ credential.id = id ∧ credential.instance_ = some instance_ ∧
        instance_ ∉ liveInstances rows
  | credentials, .reportedUnclaimed | credentials, .setReportedUnclaimed _ => True
  | recovery, .listInstances => history = []
  | recovery, .listLabeled => ∃ rows, history = [⟨.listInstances, .ok rows⟩]
  | recovery, .removeOrphan id => ∃ rows labeled later,
      history = [⟨.listInstances, .ok rows⟩, ⟨.listLabeled, .ok labeled⟩] ++ later ∧
        id ∈ labeled ∧ id ∉ liveInstances rows
  | recovery, .endRecovery => True
  | _, .record _ => True
  | _, _ => False

variable {history : List (Exchange SweepSig)} {agent : Agent}

/-- A program each of whose actions is permitted after every history that begins as this one does. -/
def Within (sweep : Sweep) (base : List (Exchange SweepSig)) (program : SweepProg Unit) : Prop :=
  ∀ later, Heeds (fun _ => True) sweep.RestsOn
    (fun last _ => ∃ more, last = base ++ more) (base ++ later) program

variable {sweep : Sweep} {base : List (Exchange SweepSig)}

theorem Within.done : Within sweep base (.pure ()) :=
  fun later => ⟨later, rfl⟩

theorem Within.act {act : SweepAct} {next : SweepSig.Ans act → SweepProg Unit}
    (permitted : ∀ later, sweep.RestsOn (base ++ later) act)
    (rest : ∀ answer, Within sweep base (next answer)) : Within sweep base (.step act next) := by
  intro later
  refine ⟨permitted later, fun answer _ => ?_⟩
  rw [List.append_assoc]
  exact rest answer _

theorem Within.seq {program rest : SweepProg Unit} (first : Within sweep base program)
    (second : Within sweep base rest) : Within sweep base (program.bind fun _ => rest) := by
  intro later
  refine (first later).bind ?_
  rintro last - ⟨more, rfl⟩
  exact second more

theorem Within.degradation (id message : String) :
    Within sweep base (Sweep.degradation id message) :=
  .act (fun _ => by cases sweep <;> trivial) fun _ => .done

theorem mem_byRunning {group : List Sandbox} {sandbox : Sandbox}
    (member : sandbox ∈ byRunning group) : sandbox ∈ group := by
  rcases List.mem_append.mp member with idle | running
  · exact List.mem_of_mem_filter idle
  · exact List.mem_of_mem_filter running

/-! ### One lemma a loop -/

theorem within_reapSandboxes (id why : String) (group : List Sandbox)
    (permitted : ∀ sandbox ∈ group, ∀ later,
      Sweep.instances.RestsOn (base ++ later) (.removeSandbox sandbox.substrateId)) :
    Within .instances base (reapSandboxes id why group) := by
  induction group with
  | nil => exact .done
  | cons sandbox rest ih =>
    obtain ⟨first, others⟩ := List.forall_mem_cons.mp permitted
    refine .seq (.act first fun answer => ?_) (ih others)
    cases answer with
    | ok _ => exact .degradation _ _
    | error _ => exact .done

variable {rows : List InstanceRow}

theorem within_sweepGroup {sandboxes : List Sandbox} {forkingSources : Except String (List String)}
    (id : String) : Within .instances (instanceReads sandboxes rows forkingSources)
      (sweepGroup (liveInstances rows) forkingSources.toOption id (sandboxesOf sandboxes id)) := by
  have tagged : ∀ {sandbox}, sandbox ∈ sandboxesOf sandboxes id →
      sandbox ∈ sandboxes ∧ sandbox.instanceId = id := by
    intro sandbox member
    simpa [sandboxesOf] using member
  unfold sweepGroup
  split
  · next stale =>
      refine within_reapSandboxes _ _ _ fun sandbox member later => ?_
      obtain ⟨listed, named⟩ := tagged member
      exact ⟨sandboxes, rows, forkingSources, later, sandbox, rfl, listed, rfl,
        .inl (named ▸ stale)⟩
  · next live =>
      split
      · next several =>
          cases forkingSources with
          | error cause => exact .done
          | ok sources =>
            change Within _ _ (if id ∈ sources then _ else _)
            split
            · exact .done
            · next unforked =>
                split
                · exact .degradation _ _
                · next idle =>
                    refine within_reapSandboxes _ _ _ fun sandbox member later => ?_
                    obtain ⟨listed, named⟩ :=
                      tagged (mem_byRunning ((List.dropLast_subset _) member))
                    subst named
                    exact ⟨sandboxes, rows, .ok sources, later, sandbox, rfl, listed, rfl,
                      .inr ⟨not_not.mp live, ⟨sources, rfl, unforked⟩, not_lt.mp idle,
                      several, member⟩⟩
      · exact .done

theorem within_sweepGroups {sandboxes : List Sandbox} {forkingSources : Except String (List String)}
    (ids : List String) : Within .instances (instanceReads sandboxes rows forkingSources)
      (sweepGroups (liveInstances rows) forkingSources.toOption
        (ids.map fun id => (id, sandboxesOf sandboxes id))) := by
  induction ids with
  | nil => exact .done
  | cons id rest ih => exact .seq (within_sweepGroup id) ih

theorem within_reapEach {credentials : List Credential} (todo : List Credential)
    (listed : todo ⊆ credentials) :
    Within .credentials [⟨.listCredentials, .ok credentials⟩, ⟨.listInstances, .ok rows⟩]
      (reapEach (liveInstances rows) todo) := by
  induction todo with
  | nil => exact .done
  | cons credential rest ih =>
    obtain ⟨member, others⟩ := List.cons_subset.mp listed
    refine .seq ?_ (ih others)
    unfold reapCredential
    split
    · exact .done
    · next id claimed =>
        split
        · exact .done
        · next stale =>
            refine .act (fun later => ⟨credentials, rows, later, credential, id, rfl, member, rfl,
              claimed, stale⟩) fun answer => ?_
            cases answer with
            | ok _ => exact .degradation _ _
            | error _ => exact .done

theorem within_reportUnclaimed (unclaimed : List String) :
    Within .credentials base (reportUnclaimed unclaimed) := by
  refine .act (fun _ => trivial) fun reported => ?_
  have noted : Within .credentials base (Sweep.perform (.setReportedUnclaimed unclaimed)) :=
    .act (fun _ => trivial) fun _ => .done
  change Within _ _ (if unclaimed = reported then _ else _)
  split
  · exact .done
  · split
    · exact .seq (.degradation _ _) noted
    · exact noted

theorem within_removeOrphans {labeled : List String} (todo : List String)
    (listed : todo ⊆ labeled) :
    Within .recovery [⟨.listInstances, .ok rows⟩, ⟨.listLabeled, .ok labeled⟩]
      (removeOrphans (liveInstances rows) todo) := by
  induction todo with
  | nil => exact .done
  | cons id rest ih =>
    obtain ⟨member, others⟩ := List.cons_subset.mp listed
    change Within _ _ (if id ∈ liveInstances rows then _ else _)
    split
    · exact ih others
    · next unknown =>
        exact .act (fun later => ⟨rows, labeled, later, rfl, member, unknown⟩) fun _ =>
          ih others

/-! ### The sweeps -/

theorem Within.heeds {program : SweepProg Unit} (within : Within sweep base program) :
    Heeds (fun _ => True) sweep.RestsOn (fun _ _ => True) base program := by
  have from_ := within []
  rw [List.append_nil] at from_
  exact from_.mono (fun _ _ holds => holds) fun _ _ _ => trivial

/-- **Every action of a sweep rests on what the sweep has read.** -/
theorem heeds_sweep (agent : Agent) (sweep : Sweep) :
    Heeds (fun _ => True) sweep.RestsOn (fun _ _ => True) [] (sweep.prog agent) := by
  cases sweep with
  | recovery =>
    refine ⟨rfl, fun registry _ => ?_⟩
    cases registry with
    | error _ => trivial
    | ok rows =>
      refine ⟨⟨rows, rfl⟩, fun listing _ => ?_⟩
      have ended : ∀ {base}, Within .recovery base (Sweep.perform .endRecovery) :=
        fun {base} => .act (fun _ => trivial) fun _ => .done
      cases listing with
      | ok labeled => exact ((within_removeOrphans labeled (List.Subset.refl _)).seq ended).heeds
      | error cause => exact ((Within.degradation _ _).seq ended).heeds
  | instances =>
    refine ⟨rfl, fun listing _ => ?_⟩
    cases listing with
    | error _ => trivial
    | ok sandboxes =>
      change Heeds _ _ _ _ (if sandboxes = [] then _ else _)
      split
      · trivial
      · refine ⟨⟨sandboxes, rfl⟩, fun registry _ => ?_⟩
        cases registry with
        | error _ => trivial
        | ok rows =>
          refine ⟨⟨sandboxes, rows, rfl⟩, fun forkingSources _ => ?_⟩
          exact (within_sweepGroups _).heeds
  | credentials =>
    refine ⟨rfl, fun listing _ => ?_⟩
    cases listing with
    | error cause => exact (Within.degradation _ _).heeds
    | ok credentials =>
      change Heeds _ _ _ _ (if credentials = [] then _ else _)
      split
      · trivial
      · refine ⟨⟨credentials, rfl⟩, fun registry _ => ?_⟩
        cases registry with
        | error _ => trivial
        | ok rows =>
          exact ((within_reapEach credentials (List.Subset.refl _)).seq
            (within_reportUnclaimed _)).heeds

end Barista.Node
