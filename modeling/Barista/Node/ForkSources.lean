import Barista.Node.SnapshotNames
import Barista.Node.Spared

/-!
Contract: the source of a fork in flight, and the sweeps that must not take it for a leak.

While a fork runs, its clone may wear the source's id, and a sweep of sandboxes would see a duplicate.
The sweep knows the source by the text of the fork's operation, which names a snapshot, and by the
row of that snapshot, which names the source. The row can be deleted while the fork runs, and the
sweep's three reads are taken at three moments.

Owns: when the source of a fork is exempt, and which passes leave it and its child alone.
-/

namespace Barista.Node

open Foundation Fleet
open Prog (After)

/-! ### A fork's call -/

structure ForkCall where
  child : String
  source : String
  snapshotId : String
deriving DecidableEq, Repr

def System.forking (system : System) (worker : Nat) : Option ForkCall :=
  match system.tasks[worker]? with
  | some ⟨.executor executor, .step (.runtime (.fork source snapshotId _ _ _)) _⟩ =>
    some ⟨executor.op.instanceId, source, snapshotId⟩
  | _ => none

/-- The row of the fork's snapshot is there, and names the source; the snapshot's id is one field of
a text. -/
def Journal.Traces (journal : Journal) (fork : ForkCall) : Prop :=
  (fork.source ≠ "" ∧ (journal.getSnapshot fork.snapshotId).map SnapshotRow.instanceId =
    some fork.source) ∧ fork.snapshotId ≠ "" ∧ ∀ c ∈ fork.snapshotId.toList, isWhitespace c = false

instance (journal : Journal) (fork : ForkCall) : Decidable (journal.Traces fork) :=
  have : Decidable (∀ c ∈ fork.snapshotId.toList, isWhitespace c = false) := List.decidableBAll _ _
  inferInstanceAs (Decidable (_ ∧ _))

/-- A text whose first field is that of a fork's snapshot. -/
def Describes (payload snapshotId : String) : Prop :=
  ∃ rest, payload.toList = (sourceField ++ snapshotId.toList) ++ ' ' :: rest

theorem describes_fork (snapshotId : String) (requireCow : Bool) :
    Describes s!"source_snapshot_id={snapshotId} require_cow={requireCow}" snapshotId := by
  have plain (text : String) : toString text = text := rfl
  have key : "source_snapshot_id=".toList = sourceField := by rfl
  have blank : " require_cow=".toList = ' ' :: "require_cow=".toList := by rfl
  exists "require_cow=".toList ++ (toString requireCow).toList
  rw [plain, plain, plain, String.toList_append, String.toList_append,
    String.toList_append, key, blank, List.append_assoc _ (' ' :: _), List.cons_append]

/-- **A fork's text names its snapshot.** -/
theorem Describes.source {payload snapshotId : String} (describes : Describes payload snapshotId)
    (named : snapshotId ≠ "") (field : ∀ c ∈ snapshotId.toList, isWhitespace c = false) :
    sourceSnapshotOf payload = some snapshotId := by
  obtain ⟨rest, text⟩ := describes
  have unbroken : ∀ c ∈ sourceField ++ snapshotId.toList, isWhitespace c = false := by
    have key : (sourceField.all fun c => !isWhitespace c) = true := by decide
    exact List.forall_mem_append.mpr ⟨by simpa using key, field⟩
  have keyed : sourceField.isPrefixOf (sourceField ++ snapshotId.toList) = true :=
    List.isPrefixOf_iff_prefix.mpr (List.prefix_append ..)
  unfold sourceSnapshotOf splitWhitespace
  rw [text, List.splitOnP_append_cons_of_forall_mem unbroken ' ' rfl,
    List.filter_cons_of_pos (by rfl), List.findSome?_cons, if_pos keyed, List.drop_left,
    String.ofList_toList]
  simp [named]

variable {agent : Agent} {etags : LeaseVersioning} {system : System}
  {labels : List Label} {worker : Nat} {fork : ForkCall}

theorem OpPayload.does_fork {payload : OpPayload} {id source snapshotId : String}
    {spec : InstanceSpec} {guest : GuestBootstrap} {requireCow : Bool}
    (does : payload.does id (.runtime (.fork source snapshotId spec guest requireCow))) :
    ∃ childSpec lineage token identity,
      payload = .fork childSpec source snapshotId lineage requireCow token identity := by
  cases payload with
  | fork childSpec origin snapshot lineage cow token identity =>
    obtain ⟨_, _, same⟩ := does
    cases same
    exact ⟨childSpec, lineage, token, identity, rfl⟩
  | _ => simp [OpPayload.does, Journals] at does

theorem forking_owns (reached : System.reach agent etags labels = some system)
    (forking : system.forking worker = some fork) :
    ∃ op ∈ system.world.journal.operations.rows, op.kind = .fork ∧ op.executorActive = true ∧
      Describes op.payload fork.snapshotId := by
  have accounted := reach_accounted reached
  unfold System.forking at forking
  split at forking
  swap
  · cases forking
  next executor source snapshotId spec guest requireCow continuation found =>
    cases forking
    have residual := accounted.come found
    rcases execute_work residual rfl with ⟨⟨working⟩, does⟩ | ⟨compensates, -⟩
    swap
    · cases compensates
    obtain ⟨op, member, -, -, kind, text, active⟩ := (accounted.working found working).owns
    obtain ⟨childSpec, lineage, token, identity, asked⟩ := OpPayload.does_fork does
    rw [asked] at kind text
    exact ⟨op, member, kind, active, text ▸ describes_fork snapshotId requireCow⟩

/-- **The source of a fork whose snapshot's row is there is exempt.** -/
theorem forking_exempt (reached : System.reach agent etags labels = some system)
    (forking : system.forking worker = some fork) (traced : system.world.journal.Traces fork) :
    fork.source ∈ system.world.journal.forkSourceInstancesInFlight := by
  obtain ⟨op, member, kind, active, describes⟩ := forking_owns reached forking
  obtain ⟨⟨sourced, traced⟩, named, field⟩ := traced
  obtain ⟨row, found, names⟩ := Option.map_eq_some_iff.mp traced
  refine List.mem_filterMap.mpr ⟨op, List.mem_filter.mpr ⟨member, by simp [kind, active]⟩, ?_⟩
  rw [describes.source named field]
  simp [found, names, sourced]

/-! ### A pass around the fork -/

/-- When a pass comes to one of its reads, something holds. -/
def Whenever (pass : Nat) (act : SweepAct) (P : Ground → Prop) (site : Site) (label : SiteLabel)
    (_ : Site) : Prop :=
  match label with
  | .sweep index _ => index = pass → site.asks pass = some act → P site.world
  | _ => True

instance {pass : Nat} {act : SweepAct} {P : Ground → Prop} [DecidablePred P] {site after : Site} :
    (label : SiteLabel) → Decidable (Whenever pass act P site label after)
  | .sweep _ _ => inferInstanceAs (Decidable (_ → _ → _))
  | .node _ | .begin_ _ | .substrate _ _ => inferInstanceAs (Decidable True)

def Ground.Open (fork : ForkCall) (ground : Ground) : Prop :=
  ∀ id ∈ [fork.source, fork.child], (ground.journal.stateOf id).any
    (fun state => !state.isTerminal) = true

def Ground.Single (id : String) (ground : Ground) : Prop :=
  (sandboxesOf ground.sandboxes id).length ≤ 1

/-- The fork's call may be running, and the row of its snapshot is there. -/
def Ground.Forking (worker : Nat) (fork : ForkCall) (ground : Ground) : Prop :=
  ground.node.forking worker = some fork ∧ ground.journal.Traces fork

instance (fork : ForkCall) : DecidablePred (Ground.Open fork) :=
  fun _ => inferInstanceAs (Decidable (∀ id ∈ _, _))

instance (id : String) : DecidablePred (Ground.Single id) :=
  fun _ => inferInstanceAs (Decidable (_ ≤ _))

instance (worker : Nat) (fork : ForkCall) : DecidablePred (Ground.Forking worker fork) :=
  fun _ => inferInstanceAs (Decidable (_ ∧ _))

/-- A sandbox of the source may become the child's, and is nobody else's. -/
def Kin (fork : ForkCall) (family : String → Bool) (_ : Site) (label : SiteLabel) (_ : Site) :
    Prop :=
  match label with
  | .substrate sandboxes _ => ∀ sandbox ∈ sandboxes, family sandbox.substrateId =
      decide (sandbox.instanceId ∈ [fork.source, fork.child])
  | _ => True

instance {fork : ForkCall} {family : String → Bool} {before after : Site} :
    (label : SiteLabel) → Decidable (Kin fork family before label after)
  | .substrate _ _ => inferInstanceAs (Decidable (∀ sandbox ∈ _, _))
  | .node _ | .begin_ _ | .sweep _ _ => inferInstanceAs (Decidable True)

/-- What a pass must find for it to leave both sides of a fork alone: it reads the registry while both
are live, and lists at most one sandbox of the child; and it lists at most one of the source, or asks
for the forks in flight while this one is. -/
structure Considerate (agent : Agent) (etags : LeaseVersioning)
    (labels : List SiteLabel) (pass worker : Nat) (fork : ForkCall) (family : String → Bool) :
    Prop where
  kin : Along (Site.next agent etags) (Kin fork family) Site.initial labels
  registry : Along (Site.next agent etags) (Whenever pass .listInstances (Ground.Open fork))
    Site.initial labels
  child : Along (Site.next agent etags) (Whenever pass .listSandboxes (Ground.Single fork.child))
    Site.initial labels
  source : Along (Site.next agent etags)
      (Whenever pass .listSandboxes (Ground.Single fork.source)) Site.initial labels ∨
    Along (Site.next agent etags)
      (Whenever pass .forkSourceInstancesInFlight (Ground.Forking worker fork)) Site.initial labels

section Passes

variable {site after : Site} {steps : List SiteLabel} {pass : Nat} {family : String → Bool}

theorem heard_when {P : Ground → Prop} {exchange : Exchange SweepSig}
    (reached : Site.reach agent etags steps = some site)
    (met : Along (Site.next agent etags) (Whenever pass exchange.act P) Site.initial steps)
    (heard : exchange ∈ site.world.heard pass) :
    ∃ early moment choice, Site.reach agent etags early = some moment ∧ P moment.world ∧
      exchange.answer = (moment.world.perform choice exchange.act).1 := by
  obtain ⟨early, choice, late, moment, next, rfl, came, stepped, asks, answered⟩ :=
    Site.heard_at reached heard
  obtain ⟨-, here⟩ := met.append came
  exact ⟨early, moment, choice, came, (here.cons stepped).1 rfl asks, answered⟩

theorem kin_inventory (reached : Site.reach agent etags steps = some site)
    (kin : Along (Site.next agent etags) (Kin fork family) Site.initial steps) :
    ∀ sandbox ∈ site.world.sandboxes,
      family sandbox.substrateId = decide (sandbox.instanceId ∈ [fork.source, fork.child]) := by
  refine kin.invariant (I := fun site : Site => ∀ sandbox ∈ site.world.sandboxes,
    family sandbox.substrateId = decide (sandbox.instanceId ∈ [fork.source, fork.child])) ?_
    (by simp [Site.initial]) reached
  intro site label after known stepped kin
  cases Site.step_of_next stepped with
  | node free moved => simpa using known
  | substrate sandboxes credentials => exact kin
  | begin_ allowed => simpa using known
  | @sweep index choice sweep act continuation found =>
    intro sandbox member
    exact known sandbox ((perform_inventory site.world choice act).1 member)

structure Heeded (site : Site) (pass : Nat) (fork : ForkCall) (family : String → Bool) : Prop where
  kin : ∀ {listed}, ⟨.listSandboxes, .ok listed⟩ ∈ site.world.heard pass → ∀ sandbox ∈ listed,
    family sandbox.substrateId = decide (sandbox.instanceId ∈ [fork.source, fork.child])
  registry : ∀ {rows}, ⟨.listInstances, .ok rows⟩ ∈ site.world.heard pass →
    ∀ id ∈ [fork.source, fork.child], id ∈ liveInstances rows
  child : ∀ {listed}, ⟨.listSandboxes, .ok listed⟩ ∈ site.world.heard pass →
    (sandboxesOf listed fork.child).length ≤ 1
  source : ∀ {listed sources}, ⟨.listSandboxes, .ok listed⟩ ∈ site.world.heard pass →
    ⟨.forkSourceInstancesInFlight, .ok sources⟩ ∈ site.world.heard pass →
    (sandboxesOf listed fork.source).length ≤ 1 ∨ fork.source ∈ sources

theorem Considerate.heeded (considerate : Considerate agent etags steps pass worker fork family)
    (reached : Site.reach agent etags steps = some site) : Heeded site pass fork family := by
  constructor
  · intro listed heard
    obtain ⟨early, choice, late, moment, next, rfl, came, -, -, answered⟩ :=
      Site.heard_at reached heard
    rw [answered_ok answered.symm]
    exact kin_inventory came (considerate.kin.append came).1
  · intro rows heard id member
    obtain ⟨-, moment, choice, -, open_, answered⟩ := heard_when reached considerate.registry heard
    obtain ⟨state, read, live⟩ := (Option.any_eq_true _ _).mp (open_ id member)
    rw [answered_ok answered.symm]
    exact mem_liveInstances read (by simpa using live)
  · intro listed heard
    obtain ⟨-, moment, choice, -, single, answered⟩ := heard_when reached considerate.child heard
    rw [answered_ok answered.symm]
    exact single
  · intro listed sources heard asked
    rcases considerate.source with single | forking
    · obtain ⟨-, moment, choice, -, single, answered⟩ := heard_when reached single heard
      rw [answered_ok answered.symm]
      exact .inl single
    · obtain ⟨early, moment, choice, came, ⟨forking, traced⟩, answered⟩ :=
        heard_when reached forking asked
      rw [answered_ok answered.symm]
      exact .inr (forking_exempt (Site.reach_node came) forking traced)

theorem Heeded.spares (heeded : Heeded site pass fork family) (tended : Site.Tended agent site)
    (kin : ∀ sandbox ∈ site.world.sandboxes,
      family sandbox.substrateId = decide (sandbox.instanceId ∈ [fork.source, fork.child]))
    {choice : SweepChoice} {act : SweepAct} {continuation : SweepSig.Ans act → SweepProg Unit}
    (found : site.tasks[pass]? = some ⟨.instances, .step act continuation⟩) {sandbox : Sandbox}
    (member : sandbox ∈ site.world.sandboxes)
    (side : sandbox.instanceId ∈ [fork.source, fork.child]) :
    sandbox ∈ (site.world.perform choice act).2.sandboxes := by
  have rests := tended.rests found
  cases act with
  | removeSandbox substrateId =>
    obtain ⟨listed, rows, forkingSources, later, spare, heard, inListing, rfl, why⟩ := rests
    have listing : (⟨.listSandboxes, .ok listed⟩ : Exchange SweepSig) ∈ site.world.heard pass := by
      simp [heard, instanceReads]
    have registry : (⟨.listInstances, .ok rows⟩ : Exchange SweepSig) ∈ site.world.heard pass := by
      simp [heard, instanceReads]
    have forks : (⟨.forkSourceInstancesInFlight, forkingSources⟩ : Exchange SweepSig) ∈
        site.world.heard pass := by
      simp [heard, instanceReads]
    have other : sandbox.substrateId ≠ spare.substrateId := by
      intro same
      have spareSide : spare.instanceId ∈ [fork.source, fork.child] := by
        have family_ := heeded.kin listing spare inListing
        rw [← same, kin sandbox member, decide_eq_true side] at family_
        exact of_decide_eq_true family_.symm
      rcases why with stale | ⟨-, redundant⟩
      · exact stale (heeded.registry registry _ spareSide)
      · obtain ⟨⟨sources, rfl, unforked⟩, -, several, -⟩ := redundant
        rcases List.mem_pair.mp spareSide with isSource | isChild
        · rw [isSource] at several unforked
          rcases heeded.source listing forks with single | exempt
          · exact absurd several (not_lt.mpr single)
          · exact unforked exempt
        · rw [isChild] at several
          exact absurd several (not_lt.mpr (heeded.child listing))
    simp only [Ground.perform, Ground.removed]
    split
    · exact member
    · exact List.mem_filter.mpr ⟨member, by simpa using other⟩
  | removeCredential credential => exact rests.elim
  | removeOrphan orphan => exact rests.elim
  | _ => exact member

/-- **The source of a fork is exempt while the row of its snapshot is there**, and a pass that finds
both sides of the fork as it should leaves them alone. -/
theorem fork_source_spared (reached : Site.reach agent etags steps = some site) :
    (site.world.node.forking worker = some fork → site.world.journal.Traces fork →
      fork.source ∈ site.world.journal.forkSourceInstancesInFlight) ∧
    (Considerate agent etags steps pass worker fork family →
      site.sweeping pass = some .instances → ∀ choice after,
        Site.next agent etags site (.sweep pass choice) = some after →
        ∀ sandbox ∈ site.world.sandboxes, sandbox.instanceId ∈ [fork.source, fork.child] →
          sandbox ∈ after.world.sandboxes) := by
  refine ⟨forking_exempt (Site.reach_node reached), ?_⟩
  intro considerate sweeps choice after stepped sandbox member side
  have heeded := considerate.heeded reached
  cases Site.step_of_next stepped with
  | @sweep index choice sweep act continuation found =>
    have own : sweep = .instances := by
      simpa [Site.sweeping, found] using sweeps
    subst own
    exact heeded.spares (Site.reach_tended reached) (kin_inventory reached considerate.kin)
      found member side

end Passes

/-! ### Passes during a fork -/

/-- The running instance is being forked. -/
def forkingSession : List Label :=
  System.capturedSession ++ System.ask System.forkRequest :: System.drive 7 0 142 7 ++
    .launch 0 :: System.drive 8 0 149 10

/-- The source is frozen, its clone wears its id, and a sandbox of no instance is about to go. -/
def shieldedSession : List SiteLabel :=
  Site.hosted 3 forkingSession ++
    [.substrate [⟨"a", ulid, false⟩, ⟨"b", ulid, true⟩, ⟨"o", "gone", true⟩] [],
    .begin_ .instances] ++
    Site.pass 1 3

theorem shieldedSession_spares :
    ∃ site after, Site.reach .plain freshVersions shieldedSession = some site ∧
      site.world.node.forking 8 = some ⟨"f", ulid, "snapshot"⟩ ∧
      ulid ∈ site.world.journal.forkSourceInstancesInFlight ∧
      Site.next .plain freshVersions site (.sweep 1 .calm) = some after ∧
      ⟨"o", "gone", true⟩ ∉ after.world.sandboxes ∧ ⟨"a", ulid, false⟩ ∈ after.world.sandboxes := by
  have run : ((Site.reach .plain freshVersions shieldedSession).any fun site =>
      site.world.node.forking 8 = some ⟨"f", ulid, "snapshot"⟩ ∧
      site.world.journal.Traces ⟨"f", ulid, "snapshot"⟩ ∧
      site.sweeping 1 = some .instances ∧ ⟨"a", ulid, false⟩ ∈ site.world.sandboxes ∧
      (Site.next .plain freshVersions site (.sweep 1 .calm)).any fun after =>
        ⟨"o", "gone", true⟩ ∉ after.world.sandboxes) = true := by decide +kernel
  have considerate : Considerate .plain freshVersions shieldedSession 1 8 ⟨"f", ulid, "snapshot"⟩
      fun substrateId => decide (substrateId ∈ ["a", "b"]) := by
    refine ⟨?_, ?_, ?_, .inr ?_⟩ <;> decide +kernel
  obtain ⟨site, reached, forking, traced, sweeps, member, run⟩ := exists_of_any run
  obtain ⟨after, stepped, removed⟩ := exists_of_any run
  obtain ⟨exempt, spared⟩ := fork_source_spared reached
  exact ⟨site, after, reached, forking, exempt forking traced, stepped, removed,
    spared considerate sweeps _ after stepped _ member (by decide)⟩

/-- The fork's snapshot is deleted while the fork runs. -/
def unshieldedSession : List SiteLabel :=
  Site.hosted 3 (forkingSession ++ [System.ask (.deleteSnapshot "delete" "snapshot")] ++
    System.drive 9 0 159 5 ++ [.launch 0] ++ System.drive 10 0 164 21) ++
    [.substrate [⟨"a", ulid, false⟩, ⟨"b", ulid, true⟩] [], .begin_ .instances] ++ Site.pass 1 3

theorem unshieldedSession_loses_source : ∃ site after,
    Site.reach .plain freshVersions unshieldedSession = some site ∧
      site.world.node.forking 8 = some ⟨"f", ulid, "snapshot"⟩ ∧
      ulid ∉ site.world.journal.forkSourceInstancesInFlight ∧ site.sweeping 1 = some .instances ∧
      Site.next .plain freshVersions site (.sweep 1 .calm) = some after ∧
      ⟨"a", ulid, false⟩ ∈ site.world.sandboxes ∧ ⟨"a", ulid, false⟩ ∉ after.world.sandboxes := by
  have run : ((Site.reach .plain freshVersions unshieldedSession).any fun site =>
      site.world.node.forking 8 = some ⟨"f", ulid, "snapshot"⟩ ∧
      ulid ∉ site.world.journal.forkSourceInstancesInFlight ∧
      site.sweeping 1 = some .instances ∧ ⟨"a", ulid, false⟩ ∈ site.world.sandboxes ∧
      (Site.next .plain freshVersions site (.sweep 1 .calm)).any fun after =>
        ⟨"a", ulid, false⟩ ∉ after.world.sandboxes) = true := by decide +kernel
  obtain ⟨site, reached, forking, unshielded, sweeps, member, run⟩ := exists_of_any run
  obtain ⟨after, stepped, lost⟩ := exists_of_any run
  exact ⟨site, after, reached, forking, unshielded, sweeps, stepped, member, lost⟩

end Barista.Node
