import Mathlib.Algebra.Order.BigOperators.Group.List
import Mathlib.Algebra.Order.Group.Nat
import Barista.Capsule.Depot

/-!
Contract: whether the bytes of a registered capsule are in the local store.

Collection asks the journal which objects may go, unlinks them, and drops their rows. Whoever exports
or imports a capsule finds or puts its objects first and registers it afterwards. Nothing is held
across these steps: an object that was found can be unlinked before it is referred to.

Owns: a run that ends with a registered capsule and no bytes, the condition on unlinks under which no
local capsule loses an object, and that it is enough; the sweep at boot needs none.
-/

namespace Barista.Capsule

open Foundation

namespace Registry

def localLists (registry : Registry) (digest : Text) : Bool :=
  registry.capsules.rows.any fun row => row.storage = .localDir &&
    row.manifest.objects.val.any fun object => object.digest = digest

variable {registry : Registry} {digest : Text}

theorem localLists_of_mem {row : CapsuleRow} {object : CapsuleObject}
    (member : row ∈ registry.capsules.rows) (here : row.storage = .localDir)
    (listed : object ∈ row.manifest.objects.val) : registry.localLists object.digest = true := by
  refine List.any_eq_true.mpr ⟨row, member, ?_⟩
  simp only [here, decide_true, Bool.true_and, List.any_eq_true, decide_eq_true_eq]
  exact ⟨object, listed, rfl⟩

theorem Exact.unlisted (counted : registry.Exact) (absent : registry.objectRefs.row? digest = none)
    {row : CapsuleRow} (member : row ∈ registry.capsules.rows) {object : CapsuleObject}
    (listed : object ∈ row.manifest.objects.val) : object.digest ≠ digest := by
  intro same
  have none_ : (registry.occurrences digest : Int) = 0 := by
    rw [← counted.counts, ObjectRefs.refcount, absent]
    rfl
  have counts : (row.manifest.objects.val.map CapsuleObject.digest).count digest ≤
      registry.occurrences digest :=
    List.single_le_sum (by simp) _ (List.mem_map.mpr ⟨row, member, rfl⟩)
  have some_ : 0 < (row.manifest.objects.val.map CapsuleObject.digest).count digest :=
    List.count_pos_iff.mpr (List.mem_map.mpr ⟨object, listed, same⟩)
  omega

end Registry

namespace Crew

variable {agent : CapsuleAgent} {crew after : Crew Verb} {label : CrewLabel Verb}

/-! ### The condition -/

/-- Whether an object is needed: a local capsule lists it, or a task at work has found or put it. -/
def needs (crew : Crew Verb) (digest : Text) : Bool :=
  crew.world.registry.localLists digest ||
    (List.range crew.tasks.length).any fun index =>
      crew.live index && decide (digest ∈ secured (crew.world.heard index))

def unlinks (crew : Crew Verb) (index : Nat) : Option Text :=
  match crew.asks index with
  | some (.removeObject digest) => some digest
  | _ => none

def lapsed (crew : Crew Verb) : CrewLabel Verb → Bool
  | .step index _ => (crew.unlinks index).all fun digest => !crew.needs digest
  | _ => true

/-! ### What the condition keeps -/

def Booting (crew : Crew Verb) (index : Nat) : Prop :=
  (∃ scan, crew.Working index (.bootstrap scan)) ∧ Unserved (crew.world.heard index)

/-- A boot is alone, and what it has found without a row has none. -/
structure Solitary (crew : Crew Verb) : Prop where
  closed : ∀ index, crew.Booting index → crew.world.serving = false
  alone : ∀ index, crew.Booting index → ∀ other verb, crew.Working other verb → other = index
  unlisted : ∀ index digest, crew.Booting index → (crew.world.heard index).getLast? =
      some (⟨.objectRef digest, .ok none⟩ : Exchange StoreSig) →
    crew.world.registry.objectRefs.row? digest = none

structure Stocked (crew : Crew Verb) : Prop where
  counted : crew.world.registry.Exact
  tiers : ∀ row ∈ crew.world.registry.capsules.rows, row.storage = .localDir ∨
    row.storage = .objectStore
  present : ∀ row ∈ crew.world.registry.capsules.rows, row.storage = .localDir →
    ∀ object ∈ row.manifest.objects.val, (crew.world.objects object.digest).isSome
  secured : ∀ index verb, crew.Working index verb → ¬ verb.leave.boots →
    ∀ digest ∈ secured (crew.world.heard index), (crew.world.objects digest).isSome

theorem boots_of_booting {index : Nat} {verb : Verb} (boots : verb.leave.boots)
    (working : crew.Working index verb) (unserved : Unserved (crew.world.heard index)) :
    crew.Booting index := by
  obtain ⟨scan, rfl⟩ := boots
  exact ⟨⟨scan, working⟩, unserved⟩

theorem unserved_of_snoc {history : List (Exchange StoreSig)} {exchange : Exchange StoreSig}
    (unserved : Unserved (history ++ [exchange])) : Unserved history ∧ exchange.act ≠ .serve :=
  ⟨fun other member => unserved other (List.mem_append_left _ member), unserved exchange (by simp)⟩

section Step

variable {index : Nat} {role : Verb} {act : StoreAct}
  {continuation : StoreSig.Ans act → StoreProg (Except CapsuleError Unit)}
  {answer : StoreSig.Ans act}
  {depot : Depot}

theorem booting_of_set (heard : depot.heard = crew.world.heard)
    (found : crew.tasks[index]? = some ⟨role, .step act continuation⟩) {other : Nat}
    (booting : Booting ⟨depot.hear index ⟨act, answer⟩,
      crew.tasks.set index ⟨role, continuation answer⟩⟩ other) : crew.Booting other := by
  obtain ⟨⟨scan, working⟩, unserved⟩ := booting
  refine ⟨⟨scan, working_of_set found working⟩, fun exchange member => unserved exchange ?_⟩
  exact (depot.hear_grows other).subset (heard ▸ member)

theorem Solitary.acts (solitary : Solitary crew)
    (found : crew.tasks[index]? = some ⟨role, .step act continuation⟩) {other : Nat}
    (booting : crew.Booting other) : index = other :=
  solitary.alone other booting index role ⟨act, continuation, found⟩

theorem Solitary.acted (solitary : Solitary crew)
    (found : crew.tasks[index]? = some ⟨role, .step act continuation⟩)
    (effect : crew.world.Effect index ⟨act, answer⟩ depot) :
    Solitary ⟨depot.hear index ⟨act, answer⟩, crew.tasks.set index
      ⟨role, continuation answer⟩⟩ := by
  refine ⟨fun other booting => ?_, fun other booting third verb working => ?_,
    fun other digest booting last => ?_⟩
  · have before := booting_of_set effect.heard found booting
    have same := solitary.acts found before
    subst same
    have unserved := booting.2
    rw [Depot.hear_self] at unserved
    have kept := solitary.closed index before
    cases effect with
    | serve => exact absurd rfl (unserved_of_snoc unserved).2
    | _ => exact kept
  · exact solitary.alone other (booting_of_set effect.heard found booting) third verb
      (working_of_set found working)
  · have before := booting_of_set effect.heard found booting
    have same := solitary.acts found before
    subst same
    rw [Depot.hear_self, List.getLast?_concat] at last
    cases last
    cases effect with
    | same told => exact told.symm

end Step

theorem Solitary.begins (solitary : Solitary crew) {verb : Verb}
    (admitted : (verbs agent).admits crew verb = true) {index : Nat}
    (booting : Booting (crew.spawn ⟨verb, verb.prog agent⟩) index) :
    index = crew.tasks.length ∧ crew.world.serving = false ∧ ∀ other part,
      ¬ crew.Working other part := by
  have alone (boots : ∃ scan, verb = .bootstrap scan) :
      crew.world.serving = false ∧ ∀ other part, ¬ crew.Working other part := by
    obtain ⟨scan, rfl⟩ := boots
    simp only [verbs, Bool.and_eq_true, Bool.not_eq_true'] at admitted
    exact ⟨admitted.1, fun _ _ => idle admitted.2⟩
  obtain ⟨⟨scan, working⟩, unserved⟩ := booting
  rcases working_of_spawn working with old | ⟨rfl, same⟩
  · have closed := solitary.closed index ⟨⟨scan, old⟩, unserved⟩
    cases verb with
    | bootstrap other => exact absurd old ((alone ⟨other, rfl⟩).2 index _)
    | _ =>
      simp only [verbs, closed] at admitted
      cases admitted
  · exact ⟨rfl, alone ⟨scan, same.symm⟩⟩

theorem Solitary.step (resides : Resides (verbs agent) crew) (solitary : Solitary crew)
    (stepped : next (verbs agent) crew label = some after) : Solitary after := by
  cases step_of_next stepped with
  | @begin_ verb admitted =>
    refine ⟨fun index booting => (solitary.begins admitted booting).2.1,
      fun index booting other part working => ?_, fun index digest booting last => ?_⟩
    · obtain ⟨rfl, -, nobody⟩ := solitary.begins admitted booting
      rcases working_of_spawn working with old | ⟨rfl, -⟩
      · exact absurd old (nobody other part)
      · rfl
    · obtain ⟨rfl, -, -⟩ := solitary.begins admitted booting
      rw [Pool.spawn_world, Pool.Resides.fresh resides le_rfl] at last
      cases last
  | crash staging objects =>
    have nobody {index : Nat} : ¬ Booting ⟨crew.world.crashed staging objects, crew.tasks.map halt⟩
        index := fun booting => not_working_halted booting.1.choose_spec
    exact ⟨fun _ booting => absurd booting nobody, fun _ booting => absurd booting nobody,
      fun _ _ booting => absurd booting nobody⟩
  | step found effect answered => exact solitary.acted found effect

/-! ### Needed objects stay -/

/-- A needed object is one a local capsule lists, or one a verb at work has secured. -/
inductive Needed (crew : Crew Verb) (digest : Text) : Prop
  | listed {row : CapsuleRow} {object : CapsuleObject}
    (member : row ∈ crew.world.registry.capsules.rows)
      (here : row.storage = .localDir) (among : object ∈ row.manifest.objects.val)
      (same : object.digest = digest)
  | secured {index : Nat} {verb : Verb} (working : crew.Working index verb)
    (serves : ¬ verb.leave.boots)
      (among : digest ∈ secured (crew.world.heard index))

theorem Needed.needs {digest : Text} (needed : Needed crew digest) : crew.needs digest = true := by
  cases needed with
  | listed member here among same =>
    rw [← same, Crew.needs, Registry.localLists_of_mem member here among]
    rfl
  | @secured index verb working serves among =>
    refine Bool.or_eq_true_iff.mpr (.inr (List.any_eq_true.mpr
      ⟨index, List.mem_range.mpr (working_lt working), ?_⟩))
    simp [live_of_working working, among]

theorem Stocked.there (stocked : Stocked crew) {digest : Text} (needed : Needed crew digest) :
    (crew.world.objects digest).isSome := by
  cases needed with
  | listed member here among same => exact same ▸ stocked.present _ member here _ among
  | secured working serves among => exact stocked.secured _ _ working serves _ among

section Keep

variable {index : Nat} {role : Verb} {act : StoreAct} {choice : StoreChoice}
  {continuation : StoreSig.Ans act → StoreProg (Except CapsuleError Unit)}
  {answer : StoreSig.Ans act}
  {depot : Depot}

theorem Stocked.kept (stocked : Stocked crew) (solitary : Solitary crew)
    (found : crew.tasks[index]? = some ⟨role, .step act continuation⟩)
    (rests : RestsOn agent role.leave (crew.world.heard index) act)
    (effect : crew.world.Effect index ⟨act, answer⟩ depot)
    (permitted : crew.lapsed (.step index choice) = true) {digest : Text}
    (needed : Needed crew digest) : (depot.objects digest).isSome := by
  rcases effect.object_kept (stocked.there needed) with kept | removed | swept
  · exact kept
  · cases removed
    have asked : crew.asks index = some (.removeObject digest) := asks_eq_some.mpr ⟨role, _, found⟩
    simp [lapsed, unlinks, asked, needed.needs] at permitted
  · cases swept
    obtain ⟨boots, -, last, unserved⟩ := rests
    have booting := boots_of_booting boots ⟨_, _, found⟩ unserved
    have absent := solitary.unlisted index digest booting last
    cases needed with
    | listed member here among same =>
      exact absurd same (stocked.counted.unlisted absent member among)
    | secured working serves among =>
      have same := solitary.alone index booting _ _ working
      subst same
      obtain ⟨later, goesOn, again⟩ := working
      rw [found] at again
      cases again
      exact absurd boots serves

theorem Stocked.rows_after (stocked : Stocked crew)
    (found : crew.tasks[index]? = some ⟨role, .step act continuation⟩)
    (rests : RestsOn agent role.leave (crew.world.heard index) act)
    (effect : crew.world.Effect index ⟨act, answer⟩ depot) {row : CapsuleRow}
    (member : row ∈ depot.registry.capsules.rows) :
    (row.storage = .localDir ∨ row.storage = .objectStore) ∧
      (row.storage = .localDir → ∀ object ∈ row.manifest.objects.val,
        Needed crew object.digest) := by
  rcases effect.registered member with old | ⟨new, result, same, ⟨rfl, -⟩ | promoted⟩
  · exact ⟨stocked.tiers row old, fun here object among => .listed old here among rfl⟩
  · cases same
    obtain ⟨serves, backed⟩ := rests
    exact ⟨backed.tiers, fun here object among =>
      .secured ⟨_, _, found⟩ serves (backed.present here object among)⟩
  · -- A promotion leads away from the local tier.
    cases same
    obtain ⟨existing, there, -, stronger, rfl⟩ := promoted
    have durable : new.storage = .objectStore := by
      rcases stocked.tiers existing there with here | here <;> rw [here] at stronger <;>
        cases stored : new.storage <;> rw [stored] at stronger <;>
          simp [capsuleTierRank] at stronger ⊢
    refine ⟨.inr durable, fun here => ?_⟩
    rw [durable] at here
    cases here

theorem Stocked.acted (stocked : Stocked crew) (solitary : Solitary crew)
    (found : crew.tasks[index]? = some ⟨role, .step act continuation⟩)
    (rests : RestsOn agent role.leave (crew.world.heard index) act)
    (effect : crew.world.Effect index ⟨act, answer⟩ depot)
    (permitted : crew.lapsed (.step index choice) = true) :
    Stocked ⟨depot.hear index ⟨act, answer⟩, crew.tasks.set index ⟨role, continuation answer⟩⟩ := by
  have kept {digest : Text} (needed : Needed crew digest) : (depot.objects digest).isSome :=
    stocked.kept solitary found rests effect permitted needed
  refine ⟨effect.exact_ stocked.counted, fun row member => ?_, fun row member here object among =>
    ?_, fun other verb working serves digest had => ?_⟩
  · exact (stocked.rows_after found rests effect member).1
  · exact kept ((stocked.rows_after found rests effect member).2 here object among)
  · have before := working_of_set found working
    by_cases same : other = index
    · subst same
      rw [Depot.hear_self, effect.heard, Capsule.secured, List.filterMap_append] at had
      rcases List.mem_append.mp had with old | new
      · exact kept (.secured before serves old)
      · obtain ⟨exchange, last, secures⟩ := List.mem_filterMap.mp new
        rw [List.mem_singleton.mp last] at secures
        exact effect.secures secures
    · rw [Depot.hear_of_ne same, effect.heard] at had
      exact kept (.secured before serves had)

end Keep

theorem Stocked.step (resides : Resides (verbs agent) crew) (solitary : Solitary crew)
    (stocked : Stocked crew) (stepped : next (verbs agent) crew label = some after)
    (permitted : crew.lapsed label = true) : Stocked after := by
  cases step_of_next stepped with
  | @begin_ verb admitted =>
    refine ⟨stocked.counted, stocked.tiers, stocked.present, ?_⟩
    intro index part working serves digest had
    rcases working_of_spawn working with old | ⟨rfl, -⟩
    · exact stocked.secured index part old serves digest had
    · rw [Pool.spawn_world, Pool.Resides.fresh resides le_rfl] at had
      cases had
  | crash staging objects =>
    refine ⟨stocked.counted, stocked.tiers, fun row member here object among => ?_,
      fun _ _ working => absurd working not_working_halted⟩
    have there := stocked.present row member here object among
    simpa [Depot.crashed] using there
  | step found effect answered =>
    exact stocked.acted solitary found (resides.rests found) effect permitted

/-- **Collection removes no bytes a local capsule refers to** in any run that unlinks an object only
while no local capsule lists it and no task at work has found or put it. -/
theorem local_capsules_stocked (agent : CapsuleAgent) {labels : List (CrewLabel Verb)}
    {crew : Crew Verb} (reached : reach (verbs agent) labels = some crew)
    (permitted : Along (next (verbs agent)) (fun before label _ => before.lapsed label = true)
      initial labels) :
    ∀ row ∈ crew.world.registry.capsules.rows, row.storage = .localDir →
      ∀ object ∈ row.manifest.objects.val, (crew.world.objects object.digest).isSome := by
  have invariant : Resides (verbs agent) crew ∧ Solitary crew ∧ Stocked crew := by
    refine permitted.invariant (I := fun crew => Resides (verbs agent) crew ∧
      Solitary crew ∧ Stocked crew)
      (fun ⟨resides, solitary, stocked⟩ stepped here => ?_) ?_ reached
    · exact ⟨resides.step stepped, solitary.step resides stepped,
        stocked.step resides solitary stepped here⟩
    · have nobody {index : Nat} {verb : Verb} : ¬ (initial : Crew Verb).Working index verb := by
        rintro ⟨act, continuation, found⟩
        cases found
      refine ⟨resides_initial, ⟨fun _ booting => ?_, fun _ booting => ?_, fun _ _ booting => ?_⟩,
        ⟨Registry.exact_empty, ?_, ?_, fun _ _ working => absurd working nobody⟩⟩
      · exact absurd booting.1.choose_spec nobody
      · exact absurd booting.1.choose_spec nobody
      · exact absurd booting.1.choose_spec nobody
      · simp [initial, Depot.empty, Registry.empty]
      · simp [initial, Depot.empty, Registry.empty]
  exact invariant.2.2.present

/-- A capsule is exported, deleted with everything it leaves, and exported again. -/
def exportedAgain : List (CrewLabel Verb) :=
  booted ++ .begin_ (.exportCapsule "s" .localDir) :: pass 1 (snapshotRead ++ calmly 7) ++
    .begin_ (.deleteCapsule (capsuleId checksum exportedManifest) 0) :: pass 2 (calmly 4) ++
    .begin_ (.exportCapsule "s" .localDir) :: pass 3 (snapshotRead ++ calmly 7)

theorem exportedAgain_stocked :
    ∃ crew row object, reach (verbs sampleAgent) exportedAgain = some crew ∧
    row ∈ crew.world.registry.capsules.rows ∧ object ∈ row.manifest.objects.val ∧
    (crew.world.objects object.digest).isSome := by
  obtain ⟨run, permitted⟩ : ((reach (verbs sampleAgent) exportedAgain).any fun crew =>
      crew.world.registry.capsules.rows.any fun row =>
        row.storage = .localDir && !row.manifest.objects.val.isEmpty) = true ∧
      Along (next (verbs sampleAgent)) (fun before label _ => before.lapsed label = true)
        initial exportedAgain := by decide +kernel
  obtain ⟨crew, reached, registered⟩ := (Option.any_eq_true _ _).mp run
  obtain ⟨row, member, facts⟩ := List.any_eq_true.mp registered
  simp only [Bool.and_eq_true, decide_eq_true_eq, Bool.not_eq_true',
    List.isEmpty_eq_false_iff] at facts
  obtain ⟨object, among⟩ := List.exists_mem_of_ne_nil _ facts.2
  exact ⟨crew, row, object, reached, member, among,
    local_capsules_stocked sampleAgent reached permitted row member facts.1 object among⟩

/-- A delete has asked which objects may go. Before it unlinks the only one, an export of the same
bytes finds that object in place; it registers its capsule when the object is gone. -/
def unlinkedExport : List (CrewLabel Verb) :=
  booted ++ .begin_ (.exportCapsule "s" .localDir) :: pass 1 (snapshotRead ++ calmly 7) ++
    .begin_ (.deleteCapsule (capsuleId checksum exportedManifest) 0) :: pass 2 (calmly 2) ++
    .begin_ (.exportCapsule "s" .localDir) :: pass 3 (snapshotRead ++ calmly 3) ++
    pass 2 (calmly 2) ++ pass 3 (calmly 4)

/-- The capsule is registered in the local tier, and the bytes it refers to are not there. -/
theorem collected_under_a_reference :
    ∃ crew row object, reach (verbs sampleAgent) unlinkedExport = some crew ∧
    row ∈ crew.world.registry.capsules.rows ∧ row.storage = .localDir ∧
    object ∈ row.manifest.objects.val ∧ crew.world.objects object.digest = none := by
  have run : ((reach (verbs sampleAgent) unlinkedExport).any fun crew =>
      crew.world.registry.capsules.rows.any fun row =>
        row.storage = .localDir && row.manifest.objects.val.any fun object =>
          decide (crew.world.objects object.digest = none)) = true := by decide +kernel
  obtain ⟨crew, reached, registered⟩ := (Option.any_eq_true _ _).mp run
  obtain ⟨row, member, facts⟩ := List.any_eq_true.mp registered
  obtain ⟨here, listed⟩ := Bool.and_eq_true_iff.mp facts
  obtain ⟨object, among, gone⟩ := List.any_eq_true.mp listed
  exact ⟨crew, row, object, reached, member, of_decide_eq_true here, among, of_decide_eq_true gone⟩

end Crew

end Barista.Capsule
