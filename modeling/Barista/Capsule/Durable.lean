import Barista.Capsule.Depot

/-!
Contract: what stands behind a capsule in the durable tier.

A capsule is registered in the durable tier only after each of its objects was read back from the
bucket and hashed. One that is registered already may be promoted by another manifest with its id;
such a manifest lists the same objects, as long as the digest tells the manifests involved apart. The
bucket answers as it likes.

Owns: that every capsule in the durable tier has been read back, object by object, at moments of the
run. Does not own: whether the bucket still has the bytes.
-/

namespace Barista.Capsule

open Foundation

namespace Crew

variable {Role : Type} {agent : CapsuleAgent} {service : Service agent Role}
  {crew after : Crew Role} {label : CrewLabel Role} {labels : List (CrewLabel Role)}

/-- Some task has asked the journal to register a manifest. -/
def Offered (crew : Crew Role) (manifest : CapsuleManifest) : Prop :=
  ∃ index row answer, (⟨.registerCapsule row, answer⟩ : Exchange StoreSig) ∈
    crew.world.heard index ∧ row.manifest = manifest

/-- The digest tells the manifests apart that were offered. -/
def Distinguished (sha256 : List UInt8 → Digest) (crew : Crew Role) : Prop :=
  ∀ left right, crew.Offered left → crew.Offered right →
    sha256 left.stream = sha256 right.stream → left.stream = right.stream

/-- An object was read back from the bucket, with its digest and its length. -/
def Seen (sha256 : List UInt8 → Digest) (crew : Crew Role) (object : CapsuleObject) : Prop :=
  ∃ index, ReadBack sha256 (crew.world.heard index) object.digest object.length

structure Evidenced (agent : CapsuleAgent) (crew : Crew Role) : Prop where
  offered : ∀ row ∈ crew.world.registry.capsules.rows,
    row.capsuleId = capsuleId agent.objects.sha256 row.manifest ∧ row.manifest.createdAt.isSome ∧
      crew.Offered row.manifest
  durable : crew.Distinguished agent.objects.sha256 → ∀ row ∈ crew.world.registry.capsules.rows,
    row.storage = .objectStore → ∀ object ∈ row.manifest.objects.val,
    crew.Seen agent.objects.sha256 object

theorem grows (stepped : next service crew label = some after) (index : Nat) :
    crew.world.heard index <+: after.world.heard index := by
  cases step_of_next stepped with
  | begin_ admitted => exact List.prefix_rfl
  | crash staging objects => exact List.prefix_rfl
  | @step actor choice role act continuation answer depot found effect answered =>
    have longer := @Depot.hear_grows depot actor ⟨act, answer⟩ index
    rwa [effect.heard] at longer

theorem Offered.step {manifest : CapsuleManifest} (offered : crew.Offered manifest)
    (stepped : next service crew label = some after) : after.Offered manifest := by
  obtain ⟨index, row, answer, member, same⟩ := offered
  exact ⟨index, row, answer, (grows stepped index).subset member, same⟩

theorem Seen.step {sha256 : List UInt8 → Digest} {object : CapsuleObject}
    (seen : crew.Seen sha256 object)
    (stepped : next service crew label = some after) : after.Seen sha256 object := by
  obtain ⟨index, read⟩ := seen
  exact ⟨index, readBack_mono (grows stepped index) read⟩

theorem Distinguished.before {sha256 : List UInt8 → Digest} (told : after.Distinguished sha256)
    (stepped : next service crew label = some after) : crew.Distinguished sha256 :=
  fun left right leftOffered rightOffered =>
    told left right (leftOffered.step stepped) (rightOffered.step stepped)

theorem seen_of_promotion {sha256 : List UInt8 → Digest} (told : crew.Distinguished sha256)
    {left right : CapsuleManifest} (leftOffered : crew.Offered left)
    (rightOffered : crew.Offered right)
    (leftDated : left.createdAt.isSome) (rightDated : right.createdAt.isSome)
    (same : capsuleId sha256 left = capsuleId sha256 right)
    (seen : ∀ object ∈ right.objects.val, crew.Seen sha256 object) :
    ∀ object ∈ left.objects.val, crew.Seen sha256 object := by
  have alike := (CapsuleManifest.canonical_eq_iff leftDated rightDated).mp
    ((capsuleId_eq_iff (told left right leftOffered rightOffered)).mp same)
  exact fun object member => seen object (alike.objects.mem_iff.mp member)

theorem Evidenced.step (resides : Resides service crew) (evidenced : Evidenced agent crew)
    (stepped : next service crew label = some after) : Evidenced agent after := by
  -- What was there before has what it needs.
  have kept {row : CapsuleRow} (old : row ∈ crew.world.registry.capsules.rows) :
      row.capsuleId = capsuleId agent.objects.sha256 row.manifest ∧ row.manifest.createdAt.isSome ∧
        after.Offered row.manifest := by
    obtain ⟨identified, dated, offered⟩ := evidenced.offered row old
    exact ⟨identified, dated, offered.step stepped⟩
  have keptSeen (told : after.Distinguished agent.objects.sha256) {row : CapsuleRow}
      (old : row ∈ crew.world.registry.capsules.rows) (there : row.storage = .objectStore) :
      ∀ object ∈ row.manifest.objects.val, after.Seen agent.objects.sha256 object :=
    fun object member => (evidenced.durable (told.before stepped) row old there object member).step
      stepped
  cases step_of_next stepped with
  | begin_ admitted =>
    exact ⟨fun row old => kept old, fun told row old there => keptSeen told old there⟩
  | crash staging objects =>
    exact ⟨fun row old => kept old, fun told row old there => keptSeen told old there⟩
  | @step index choice role act continuation answer depot found effect answered =>
    have rests := resides.rests found
    have offering {row : CapsuleRow} {result : StoreSig.Ans (.registerCapsule row)}
        (same : (⟨act, answer⟩ : Exchange StoreSig) = ⟨.registerCapsule row, result⟩) :
        Backed agent (crew.world.heard index) row ∧ Offered
          ⟨depot.hear index ⟨act, answer⟩, crew.tasks.set index ⟨role, continuation answer⟩⟩
          row.manifest := by
      cases same
      refine ⟨rests.2, index, row, result, ?_, rfl⟩
      rw [Depot.hear_self]
      exact List.mem_append_right _ List.mem_cons_self
    have readBack {row : CapsuleRow} (backed : Backed agent (crew.world.heard index) row)
        (there : row.storage = .objectStore) : ∀ object ∈ row.manifest.objects.val,
          Seen agent.objects.sha256 _ object :=
      fun object member => Seen.step ⟨index, backed.durable there object member⟩ stepped
    refine ⟨fun row member => ?_, fun told row member there => ?_⟩
    · rcases effect.registered member with old | ⟨new, result, same, ⟨rfl, -⟩ | promoted⟩
      · exact kept old
      · obtain ⟨backed, offered⟩ := offering same
        exact ⟨backed.identified, backed.dated, offered⟩
      · obtain ⟨existing, old, -, -, rfl⟩ := promoted
        have facts := kept old
        exact facts
    · rcases effect.registered member with old | ⟨new, result, same, ⟨rfl, -⟩ | promoted⟩
      · exact keptSeen told old there
      · exact readBack (offering same).1 there
      · obtain ⟨existing, old, named, -, rfl⟩ := promoted
        obtain ⟨backed, offered⟩ := offering same
        obtain ⟨identified, dated, oldOffered⟩ := kept old
        refine seen_of_promotion told oldOffered offered dated backed.dated ?_
          (readBack backed there)
        rw [← identified, named, backed.identified]

/-- **The durable tier is evidence**: along every run, whatever the bucket does, when a capsule is
registered in the durable tier then each object of its manifest was read back at a moment of the run
from under its key in the bucket, and had the digest and the length that the manifest states. The
digest is to tell the manifests apart that were offered for registration. -/
theorem durable_tier_is_evidence (agent : CapsuleAgent) {labels : List (CrewLabel Verb)}
    {crew : Crew Verb} (reached : reach (verbs agent) labels = some crew)
    (told : crew.Distinguished agent.objects.sha256) :
    ∀ row ∈ crew.world.registry.capsules.rows, row.storage = .objectStore →
      ∀ object ∈ row.manifest.objects.val,
        ∃ early index choice late moment bytes, labels = early ++ .step index choice :: late ∧
          reach (verbs agent) early = some moment ∧ moment.asks index = some (.get object.digest) ∧
          (moment.world.perform index choice (.get object.digest)).1 = .ok (some bytes) ∧
          objectDigest agent.objects.sha256 bytes = object.digest ∧
          byteLength bytes = object.length := by
  have invariant : Resides (verbs agent) crew ∧ Evidenced agent crew := by
    refine run_invariant (P := fun crew => Resides (verbs agent) crew ∧ Evidenced agent crew)
      (fun ⟨resides, evidenced⟩ stepped => ?_) ?_ reached
    · exact ⟨resides.step stepped, evidenced.step resides stepped⟩
    · refine ⟨resides_initial, ⟨?_, ?_⟩⟩ <;> simp [initial, Depot.empty, Registry.empty]
  intro row member there object among
  obtain ⟨index, bytes, read, digest, length⟩ :=
    invariant.2.durable told row member there object among
  obtain ⟨early, choice, late, moment, split, ran, asked, answered⟩ := heard_at reached read
  exact ⟨early, index, choice, late, moment, bytes, split, ran, asked, answered.symm,
    digest, length⟩

def offer? : Exchange StoreSig → Option CapsuleManifest
  | ⟨.registerCapsule row, _⟩ => some row.manifest
  | _ => none

def offers (crew : Crew Role) : List CapsuleManifest :=
  (List.range crew.tasks.length).flatMap fun index => (crew.world.heard index).filterMap offer?

theorem mem_offers (resides : Resides service crew) {manifest : CapsuleManifest}
    (offered : crew.Offered manifest) : manifest ∈ crew.offers := by
  obtain ⟨index, row, answer, member, same⟩ := offered
  have within : index < crew.tasks.length := by
    by_contra past
    rw [Pool.Resides.fresh resides (Nat.not_lt.mp past)] at member
    cases member
  exact List.mem_flatMap.mpr ⟨index, List.mem_range.mpr within,
    List.mem_filterMap.mpr ⟨_, member, congrArg some same⟩⟩

def exportedRemotely : List (CrewLabel Verb) :=
  booted ++ .begin_ (.exportCapsule "s" .objectStore) :: pass 1 (snapshotRead ++ calmly 5 ++
    { downloaded := some sampleBytes } :: calmly 4)

theorem exportedRemotely_evidence : ∃ crew row object early index choice late moment,
    reach (verbs sampleAgent) exportedRemotely = some crew ∧
    row ∈ crew.world.registry.capsules.rows ∧ row.storage = .objectStore ∧
    object ∈ row.manifest.objects.val ∧ exportedRemotely = early ++ .step index choice :: late ∧
    reach (verbs sampleAgent) early = some moment ∧ moment.asks index = some
      (.get object.digest) := by
  have run : ((reach (verbs sampleAgent) exportedRemotely).any fun crew =>
      crew.offers.all (· = exportedManifest) && crew.world.registry.capsules.rows.any fun row =>
        row.storage = .objectStore && !row.manifest.objects.val.isEmpty) = true := by decide +kernel
  obtain ⟨crew, reached, facts⟩ := (Option.any_eq_true _ _).mp run
  obtain ⟨offered, registered⟩ := Bool.and_eq_true_iff.mp facts
  have only {manifest : CapsuleManifest} (once : crew.Offered manifest) :
    manifest = exportedManifest :=
    of_decide_eq_true (List.all_eq_true.mp offered _ (mem_offers (resides_of_reach reached) once))
  have told : crew.Distinguished sampleAgent.objects.sha256 := by
    intro left right leftOffered rightOffered _
    rw [only leftOffered, only rightOffered]
  obtain ⟨row, member, rowFacts⟩ := List.any_eq_true.mp registered
  simp only [Bool.and_eq_true, decide_eq_true_eq, Bool.not_eq_true',
    List.isEmpty_eq_false_iff] at rowFacts
  obtain ⟨object, among⟩ := List.exists_mem_of_ne_nil _ rowFacts.2
  obtain ⟨early, index, choice, late, moment, bytes, split, ran, asked, -⟩ :=
    durable_tier_is_evidence sampleAgent reached told row member rowFacts.1 object among
  exact ⟨crew, row, object, early, index, choice, late, moment, reached, member, rowFacts.1, among,
    split, ran, asked⟩

end Crew

end Barista.Capsule
