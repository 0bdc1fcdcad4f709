import Barista.Capsule.Depot

/-!
Contract: whose staging files a collection sweeps.

A delete collects garbage, and a collection sweeps the whole staging directory, on the ground that
only crashed uploads leave files there. Uploads in flight have theirs there too: one that is swept
fails when it comes to publish or to upload what it has staged.

Owns: a run in which a delete fails an export, the condition on scans under which no task loses a
file it holds, and that publishing and reading then fail by the environment alone.
-/

namespace Barista.Capsule

open Foundation

def StoreAct.staged? : StoreAct → Option StagingName
  | .readStaging name | .publish name _ => some name
  | _ => none

/-- The staging file an exchange has read or published. -/
def spends : Exchange StoreSig → Option StagingName
  | ⟨.readStaging name, .ok _⟩ => some name
  | ⟨.publish name _, .ok _⟩ => some name
  | _ => none

/-- Reading or publishing a file that is there fails by the environment alone. -/
theorem spends_perform {depot : Depot} {index : Nat} {choice : StoreChoice} {act : StoreAct}
    {name : StagingName} (needed : act.staged? = some name) (there : (depot.staging name).isSome)
    (calm : choice.failure = none) : spends ⟨act, (depot.perform index choice act).1⟩ =
      some name := by
  obtain ⟨file, stored⟩ := Option.isSome_iff_exists.mp there
  cases act with
  | readStaging staged =>
    cases needed
    simp only [Depot.perform, Depot.attempted, Depot.onFile, calm, stored, spends]
  | publish staged digest =>
    cases needed
    simp only [Depot.perform, Depot.attempted, Depot.onFile, calm, stored, spends]
  | _ => cases needed

/-! ### Holding -/

variable {history : List (Exchange StoreSig)}

theorem hold_cases {names : List StagingName} {exchange : Exchange StoreSig} {name : StagingName}
    (holds : name ∈ hold names exchange) : exchange = ⟨.createStaging, .ok name⟩ ∨
      name ∈ names ∧ (∀ answer, exchange ≠ ⟨.removeStaging name, answer⟩) ∧
        ∀ digest answer, exchange ≠ ⟨.publish name digest, answer⟩ := by
  unfold hold at holds
  split at holds
  · next created =>
      rcases List.mem_append.mp holds with old | new
      · exact .inr ⟨old, nofun, nofun⟩
      · rw [List.mem_singleton.mp new]
        exact .inl rfl
  · next gone answer =>
      obtain ⟨old, kept⟩ := List.mem_filter.mp holds
      refine .inr ⟨old, ?_, nofun⟩
      rintro _ ⟨⟩
      simp at kept
  · next gone digest answer =>
      obtain ⟨old, kept⟩ := List.mem_filter.mp holds
      refine .inr ⟨old, nofun, ?_⟩
      rintro _ _ ⟨⟩
      simp at kept
  · next others notRemoved notPublished =>
      refine .inr ⟨holds, ?_, ?_⟩
      · rintro answer rfl
        exact notRemoved name answer rfl
      · rintro digest answer rfl
        exact notPublished name digest answer rfl

theorem created_of_held {name : StagingName} (holds : name ∈ held history) :
    (⟨.createStaging, .ok name⟩ : Exchange StoreSig) ∈ history := by
  induction history using List.reverseRecOn with
  | nil => cases holds
  | append_singleton early last ih =>
    rw [held_snoc] at holds
    rcases hold_cases holds with rfl | ⟨old, -⟩
    · simp
    · exact List.mem_append_left _ (ih old)

namespace Crew

variable {Role : Type} {agent : CapsuleAgent} {service : Service agent Role}
  {crew after : Crew Role} {label : CrewLabel Role} {labels : List (CrewLabel Role)}

theorem Named.held (named : Named crew) {index : Nat} {name : StagingName}
    (holds : name ∈ held (crew.world.heard index)) :
    name.task = index ∧ name.moment < (crew.world.heard index).length := by
  obtain ⟨moment, said⟩ := List.getElem?_of_mem (created_of_held holds)
  rw [named index moment name said]
  exact ⟨rfl, (List.getElem?_eq_some_iff.mp said).1⟩

/-! ### The condition -/

def holds (crew : Crew Role) (name : StagingName) : Bool :=
  (List.range crew.tasks.length).any fun index =>
    crew.live index && decide (name ∈ held (crew.world.heard index))

def scans (crew : Crew Role) (index : Nat) : Bool :=
  match crew.asks index with
  | some .nextStaging => true
  | _ => false

/-- A scan of the staging directory is not handed a file that a task at work holds. -/
def spares (crew : Crew Role) : CrewLabel Role → Bool
  | .step index choice =>
    !crew.scans index || choice.stagingEntry.all fun name => !crew.holds name
  | _ => true

/-! ### What the condition keeps -/

/-- The files that tasks at work hold are there, and none of them has been handed to a scan. -/
structure Attended (crew : Crew Role) : Prop where
  old : ∀ name, (crew.world.staging name).isSome →
    name.moment < (crew.world.heard name.task).length
  present : ∀ index role, crew.Working index role → ∀ name ∈ held (crew.world.heard index),
    (crew.world.staging name).isSome
  scanned : ∀ scanner name, (⟨.nextStaging, .ok (some name)⟩ : Exchange StoreSig) ∈
      crew.world.heard scanner →
    name.moment < (crew.world.heard name.task).length ∧
      ∀ index role, crew.Working index role → name ∉ held (crew.world.heard index)

theorem entry_of_told {depot : Depot} {index : Nat} {choice : StoreChoice} {name : StagingName}
    (told : .ok (some name) = (depot.perform index choice .nextStaging).1) :
    choice.stagingEntry = some name ∧ (depot.staging name).isSome := by
  cases failed : choice.failure with
  | some cause =>
    simp only [Depot.perform, Depot.attempted, failed] at told
    cases told
  | none =>
    simp only [Depot.perform, Depot.attempted, failed] at told
    exact Option.filter_eq_some_iff.mp (Except.ok.inj told).symm

theorem unheld_of_spares {index : Nat} {choice : StoreChoice} {name : StagingName}
    (scanning : crew.asks index = some .nextStaging) (entry : choice.stagingEntry = some name)
    (spared : crew.spares (.step index choice) = true) {other : Nat} {role : Role}
    (working : crew.Working other role) : name ∉ held (crew.world.heard other) := by
  intro member
  have held_ : crew.holds name = true :=
    List.any_eq_true.mpr ⟨other, List.mem_range.mpr (working_lt working),
      by simp [live_of_working working, member]⟩
  simp [spares, scans, scanning, entry, held_] at spared

section Step

variable {index : Nat} {choice : StoreChoice} {role : Role} {act : StoreAct}
  {continuation : StoreSig.Ans act → StoreProg (Except CapsuleError Unit)}
  {answer : StoreSig.Ans act}
  {depot : Depot}

/-- The files held after an action are there: what was removed was held by nobody else, and was given
up by its holder. -/
theorem Attended.present_after (attended : Attended crew) (named : Named crew)
    (found : crew.tasks[index]? = some ⟨role, .step act continuation⟩)
    (rests : RestsOn agent (service.leave role) (crew.world.heard index) act)
    (effect : crew.world.Effect index ⟨act, answer⟩ depot) {other : Nat} {part : Role}
    (working : crew.Working other part) {name : StagingName}
    (holds : name ∈ held ((depot.hear index ⟨act, answer⟩).heard other)) :
    (depot.staging name).isSome := by
  by_cases same : other = index
  · subst same
    rw [Depot.hear_self, effect.heard, held_snoc] at holds
    rcases hold_cases holds with created | ⟨old, notRemoved, notPublished⟩
    · cases created
      cases effect with
      | same told => exact told.elim
      | createStaging =>
        rw [Depot.setStaging_self]
        rfl
    · rcases effect.staging_kept (attended.present other part working name old) with
        kept | removed | swept | ⟨digest, published⟩
      · exact kept
      · exact absurd removed (notRemoved _)
      · cases swept
        exact absurd old ((attended.scanned other name rests).2 other part working)
      · exact absurd published (notPublished _ _)
  · rw [Depot.hear_of_ne same, effect.heard] at holds
    have owner := (named.held holds).1
    rcases effect.staging_kept (attended.present other part working name holds) with
      kept | removed | swept | ⟨digest, published⟩
    · exact kept
    · cases removed
      exact absurd (owner.symm.trans (named.held rests).1) same
    · cases swept
      exact absurd holds ((attended.scanned index name rests).2 other part working)
    · cases published
      exact absurd (owner.symm.trans (named.held rests.1).1) same

theorem Attended.scanned_after (attended : Attended crew)
    (found : crew.tasks[index]? = some ⟨role, .step act continuation⟩)
    (effect : crew.world.Effect index ⟨act, answer⟩ depot)
    (answered : answer = (crew.world.perform index choice act).1)
    (spared : crew.spares (.step index choice) = true) {scanner : Nat} {name : StagingName}
    (said : (⟨.nextStaging, .ok (some name)⟩ : Exchange StoreSig) ∈
      (depot.hear index ⟨act, answer⟩).heard scanner) : name.moment <
        (crew.world.heard name.task).length ∧
      ∀ other part, crew.Working other part → name ∉ held (crew.world.heard other) := by
  obtain ⟨moment, located⟩ := List.getElem?_of_mem said
  rcases Depot.heard_cases effect.heard located with earlier | ⟨rfl, -, same⟩
  · exact attended.scanned scanner name (List.mem_of_getElem? earlier)
  · cases same
    obtain ⟨entry, there⟩ := entry_of_told answered
    have scanning : crew.asks scanner = some .nextStaging := asks_eq_some.mpr ⟨role, _, found⟩
    exact ⟨attended.old name there, fun other part working =>
      unheld_of_spares scanning entry spared working⟩

theorem Attended.acted (attended : Attended crew) (named : Named crew)
    (found : crew.tasks[index]? = some ⟨role, .step act continuation⟩)
    (rests : RestsOn agent (service.leave role) (crew.world.heard index) act)
    (effect : crew.world.Effect index ⟨act, answer⟩ depot)
    (answered : answer = (crew.world.perform index choice act).1)
    (spared : crew.spares (.step index choice) = true) :
    Attended ⟨depot.hear index ⟨act, answer⟩, crew.tasks.set index
      ⟨role, continuation answer⟩⟩ := by
  have grows (other : Nat) :
      (crew.world.heard other).length ≤ ((depot.hear index ⟨act, answer⟩).heard other).length := by
    have longer := (@Depot.hear_grows depot index ⟨act, answer⟩ other).length_le
    rwa [effect.heard] at longer
  refine ⟨fun name there => ?_, fun other part working name holds =>
    ?_, fun scanner name said => ?_⟩
  · obtain ⟨file, stored⟩ := Option.isSome_iff_exists.mp there
    rcases effect.staged stored with kept | ⟨-, created⟩ | ⟨bytes, result, same, -⟩
    · exact (attended.old name (by rw [kept]; rfl)).trans_le (grows _)
    · subst created
      simp only [Depot.stagingName, Depot.hear_self, effect.heard, List.length_append]
      simp
    · cases same
      have created := List.mem_of_getLast? rests
      obtain ⟨moment, said⟩ := List.getElem?_of_mem created
      have origin := named index moment name said
      have early := (List.getElem?_eq_some_iff.mp said).1
      exact calc name.moment = moment := congrArg StagingName.moment origin
        _ < _ := early.trans_le (grows index)
        _ = _ := by rw [congrArg StagingName.task origin]
  · exact attended.present_after named found rests effect (working_of_set found working) holds
  · obtain ⟨past, unheld⟩ := attended.scanned_after found effect answered spared said
    refine ⟨past.trans_le (grows _), fun other part working holds => ?_⟩
    have before := unheld other part (working_of_set found working)
    by_cases same : other = index
    · subst same
      rw [Depot.hear_self, effect.heard, held_snoc] at holds
      rcases hold_cases holds with created | ⟨old, -⟩
      · cases created
        cases effect with
        | same told => exact told.elim
        | createStaging => exact absurd past (lt_irrefl _)
      · exact before old
    · rw [Depot.hear_of_ne same, effect.heard] at holds
      exact before holds

end Step

theorem Attended.step (resides : Resides service crew) (named : Named crew)
    (attended : Attended crew)
    (stepped : next service crew label = some after) (spared : crew.spares label = true) :
    Attended after := by
  cases step_of_next stepped with
  | @begin_ role admitted =>
    -- A task that begins has said nothing, and holds nothing.
    have fresh : held (crew.world.heard crew.tasks.length) = [] := by
      rw [Pool.Resides.fresh resides le_rfl]
      rfl
    refine ⟨attended.old, fun index part working name holds => ?_, fun scanner name said => ?_⟩
    · rcases working_of_spawn working with old | ⟨rfl, -⟩
      · exact attended.present index part old name holds
      · rw [Pool.spawn_world, fresh] at holds
        cases holds
    · obtain ⟨past, unheld⟩ := attended.scanned scanner name said
      refine ⟨past, fun index part working holds => ?_⟩
      rcases working_of_spawn working with old | ⟨rfl, -⟩
      · exact unheld index part old holds
      · rw [Pool.spawn_world, fresh] at holds
        cases holds
  | crash staging objects =>
    refine ⟨fun name there => ?_, fun _ _ working => absurd working not_working_halted,
      fun scanner name said => ⟨(attended.scanned scanner name said).1,
        fun _ _ working => absurd working not_working_halted⟩⟩
    refine attended.old name ?_
    simpa [Depot.crashed] using there
  | step found effect answered =>
    exact attended.acted named found (resides.rests found) effect answered spared

/-- **No task loses a staging file it holds** in any run whose scans of the staging directory are
handed no file that a task at work holds: whatever a task is about to publish or to upload is there,
and it is published or read unless the environment itself fails the action. -/
theorem uploads_undisturbed (agent : CapsuleAgent) {labels : List (CrewLabel Verb)}
    {crew : Crew Verb} (reached : reach (verbs agent) labels = some crew)
    (spared : Along (next (verbs agent)) (fun before label _ => before.spares label = true)
      initial labels) :
    (∀ index verb, crew.Working index verb → ∀ name ∈ held (crew.world.heard index),
        (crew.world.staging name).isSome) ∧
      ∀ index act name, crew.asks index = some act → act.staged? = some name →
        (crew.world.staging name).isSome ∧
        ∀ choice later, choice.failure = none →
          next (verbs agent) crew (.step index choice) = some later →
          ∃ exchange, later.world.heard index = crew.world.heard index ++ [exchange] ∧
            spends exchange = some name := by
  have invariant : Resides (verbs agent) crew ∧ Named crew ∧ Attended crew := by
    refine spared.invariant (I := fun crew => Resides (verbs agent) crew ∧ Named crew ∧
      Attended crew)
      (fun ⟨resides, named, attended⟩ stepped here => ?_) ?_ reached
    · exact ⟨resides.step stepped, named.step stepped, attended.step resides named stepped here⟩
    · refine ⟨resides_initial, named_initial, ⟨?_, ?_, ?_⟩⟩
      · simp [initial, Depot.empty]
      · rintro index role ⟨act, continuation, found⟩
        cases found
      · simp [initial, Depot.empty]
  obtain ⟨resides, -, attended⟩ := invariant
  refine ⟨attended.present, fun index act name asked needed => ?_⟩
  obtain ⟨verb, continuation, found⟩ := asks_eq_some.mp asked
  have rests := resides.rests found
  have there : (crew.world.staging name).isSome := by
    refine attended.present index verb ⟨act, continuation, found⟩ name ?_
    cases act with
    | readStaging staged =>
      cases needed
      exact rests
    | publish staged digest =>
      cases needed
      exact rests.1
    | _ => cases needed
  refine ⟨there, fun choice later calm stepped => ?_⟩
  cases step_of_next stepped with
  | step located effect answered =>
    rw [found] at located
    cases located
    refine ⟨_, by rw [Depot.hear_self, effect.heard], ?_⟩
    rw [answered]
    exact spends_perform needed there calm

/-- An export is killed after it has staged its object. Another is about to publish its own when a
delete sweeps what the first has left. -/
def leftoverSwept : List (CrewLabel Verb) :=
  booted ++ .begin_ (.exportCapsule "s" .localDir) :: pass 1 (snapshotRead ++ calmly 2) ++
    .crash (fun _ => .empty) (fun _ => .empty) :: .begin_ (.bootstrap 0) :: pass 2 (calmly 2) ++
    .begin_ (.exportCapsule "s" .localDir) :: pass 3 (snapshotRead ++ calmly 3) ++
    .begin_ (.deleteCapsule sampleId 1) ::
      pass 4 (calmly 1 ++ { stagingEntry := some ⟨1, 2⟩ } :: calmly 1)

theorem leftoverSwept_undisturbed : ∃ crew later exchange,
    reach (verbs sampleAgent) leftoverSwept = some crew ∧ crew.world.staging ⟨1, 2⟩ = none ∧
      (crew.world.staging ⟨3, 2⟩).isSome ∧
      next (verbs sampleAgent) crew (.step 3 .calm) = some later ∧
      later.world.heard 3 = crew.world.heard 3 ++ [exchange] ∧ spends exchange = some ⟨3, 2⟩ := by
  have run : ((reach (verbs sampleAgent) leftoverSwept).any fun crew =>
      decide (crew.world.staging ⟨1, 2⟩ = none) &&
      (crew.asks 3).any (fun act => act.staged? = some ⟨3, 2⟩) &&
      (next (verbs sampleAgent) crew (.step 3 .calm)).isSome) = true := by decide +kernel
  have spared : Along (next (verbs sampleAgent)) (fun before label _ => before.spares label = true)
      initial leftoverSwept := by decide +kernel
  obtain ⟨crew, reached, facts⟩ := (Option.any_eq_true _ _).mp run
  simp only [Bool.and_eq_true, decide_eq_true_eq] at facts
  obtain ⟨⟨swept, publishing⟩, goesOn⟩ := facts
  obtain ⟨act, asked, needed⟩ := exists_of_any publishing
  obtain ⟨later, stepped⟩ := Option.isSome_iff_exists.mp goesOn
  obtain ⟨there, succeeds⟩ :=
    (uploads_undisturbed sampleAgent reached spared).2 3 act ⟨3, 2⟩ asked needed
  obtain ⟨exchange, heard, spent⟩ := succeeds .calm later rfl stepped
  exact ⟨crew, later, exchange, reached, swept, there, stepped, heard, spent⟩

/-- An export stages its object. Before it publishes, a delete of a capsule that is not even there
collects garbage. -/
def sweptExport : List (CrewLabel Verb) :=
  booted ++ .begin_ (.exportCapsule "s" .localDir) :: pass 1 (snapshotRead ++ calmly 3) ++
    .begin_ (.deleteCapsule sampleId 1) :: pass 2
    (calmly 1 ++ { stagingEntry := some ⟨1, 2⟩ } :: calmly 1)

def ended (crew : Crew Role) (index : Nat) : Option (Except CapsuleError Unit) :=
  match crew.tasks[index]? with
  | some ⟨_, .pure result⟩ => some result
  | _ => none

/-- The export holds a file that is gone, and fails for it though nothing else goes wrong. -/
theorem export_fails_by_delete :
    ∃ crew act name, reach (verbs sampleAgent) sweptExport = some crew ∧
    crew.asks 1 = some act ∧ act.staged? = some name ∧ name ∈ held (crew.world.heard 1) ∧
    crew.world.staging name = none ∧
    ∃ later, next (verbs sampleAgent) crew (.step 1 .calm) = some later ∧
      later.ended 1 = some (.error (.capsuleVerificationFailed,
        s!"publish object {(objectDigest checksum sampleBytes).val}")) := by
  have run : ((reach (verbs sampleAgent) sweptExport).any fun crew =>
      (crew.asks 1).any (fun act => act.staged? = some ⟨1, 2⟩) &&
      decide ((⟨1, 2⟩ : StagingName) ∈ held (crew.world.heard 1)) &&
      decide (crew.world.staging ⟨1, 2⟩ = none) &&
      (next (verbs sampleAgent) crew (.step 1 .calm)).any fun later =>
        later.ended 1 = some (.error (.capsuleVerificationFailed,
          s!"publish object {(objectDigest checksum sampleBytes).val}"))) = true := by
    decide +kernel
  obtain ⟨crew, reached, facts⟩ := (Option.any_eq_true _ _).mp run
  simp only [Bool.and_eq_true, decide_eq_true_eq] at facts
  obtain ⟨⟨⟨publishing, holding⟩, gone⟩, failing⟩ := facts
  obtain ⟨act, asked, needed⟩ := exists_of_any publishing
  obtain ⟨later, stepped, failed⟩ := exists_of_any failing
  exact ⟨crew, act, ⟨1, 2⟩, reached, asked, needed, holding, gone, later, stepped, failed⟩

end Crew

end Barista.Capsule
