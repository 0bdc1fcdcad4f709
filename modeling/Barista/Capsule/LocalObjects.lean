import Barista.Capsule.Depot

/-!
Contract: what lies under a digest has that digest, and a digest leads nowhere else.

Only bytes that were measured and synced are published, under the digest they were measured to have.
A staging file is written once: its name is the task that created it and the moment it did. The
bucket, the manifests and the moments of a kill are anybody's.

Owns: the invariant of the two directories, for every service, and its conclusion for the verbs and
all direct calls of the store together.
-/

namespace Barista.Capsule

open Foundation

/-- The digest an action joins into a path. The other actions on files are told a staging name. -/
def StoreAct.digest? : StoreAct → Option Text
  | .publish _ digest | .isObject digest | .readObject digest | .removeObject digest
  | .sweepObject digest => some digest
  | _ => none

namespace Crew

variable {Role : Type} {agent : CapsuleAgent} {service : Service agent Role}
  {crew after : Crew Role} {label : CrewLabel Role} {labels : List (CrewLabel Role)}

/-- A staging file that was filled holds what it was filled with, and an object the bytes it is named
by. -/
structure Sealed (agent : CapsuleAgent) (crew : Crew Role) : Prop where
  filled : ∀ index moment name bytes, (crew.world.heard index)[moment]? =
      some (⟨.fillStaging name bytes, .ok ()⟩ : Exchange StoreSig) →
    name.task = index ∧ name.moment + 1 = moment ∧
      ∀ file, crew.world.staging name = some file → file = ⟨bytes, true⟩
  hashed : ∀ digest file, crew.world.objects digest = some file →
    file.synced = true ∧ digest = objectDigest agent.objects.sha256 file.bytes
  scanned : ∀ index digest, (⟨.nextObject, .ok (some digest)⟩ : Exchange StoreSig) ∈
    crew.world.heard index → isPathSafeDigest digest = true

variable {index : Nat} {name : StagingName}

theorem filled_name (named : Named crew) (rests : (crew.world.heard index).getLast? =
      some (⟨.createStaging, .ok name⟩ : Exchange StoreSig)) :
    name.task = index ∧ name.moment + 1 = (crew.world.heard index).length := by
  rw [List.getLast?_eq_getElem?] at rests
  have created := named index _ name rests
  have bound := (List.getElem?_eq_some_iff.mp rests).1
  subst created
  exact ⟨rfl, by simp only; omega⟩

theorem Sealed.unwritten (named : Named crew) (sealed_ : Sealed agent crew) {other moment : Nat}
    {bytes : Vec UInt8} (said : (crew.world.heard other)[moment]? =
      some (⟨.fillStaging name bytes, .ok ()⟩ : Exchange StoreSig)) : name ≠
        crew.world.stagingName index ∧
      (crew.world.heard index).getLast? ≠ some
        (⟨.createStaging, .ok name⟩ : Exchange StoreSig) := by
  obtain ⟨owner, instant, -⟩ := sealed_.filled other moment name bytes said
  have bound := (List.getElem?_eq_some_iff.mp said).1
  constructor
  · rintro rfl
    simp only [Depot.stagingName] at owner instant
    subst owner
    omega
  · intro rests
    obtain ⟨creator, last⟩ := filled_name named rests
    rw [owner] at creator
    subst creator
    omega

variable {act : StoreAct} {leave : Leave}

theorem Sealed.hear_filled (named : Named crew) (sealed_ : Sealed agent crew)
    {answer : StoreSig.Ans act} {depot : Depot}
    (rests : RestsOn agent leave (crew.world.heard index) act)
    (effect : crew.world.Effect index ⟨act, answer⟩ depot) {other moment : Nat} {bytes : Vec UInt8}
    (said : ((depot.hear index ⟨act, answer⟩).heard other)[moment]? =
      some (⟨.fillStaging name bytes, .ok ()⟩ : Exchange StoreSig)) :
    name.task = other ∧ name.moment + 1 = moment ∧
      ∀ file, depot.staging name = some file → file = ⟨bytes, true⟩ := by
  rcases Depot.heard_cases effect.heard said with old | ⟨rfl, rfl, same⟩
  · obtain ⟨owner, instant, holds⟩ := sealed_.filled other moment name bytes old
    obtain ⟨notCreated, notFilled⟩ := sealed_.unwritten named old
    refine ⟨owner, instant, fun file there => ?_⟩
    rcases effect.staged there with kept | ⟨-, created⟩ | ⟨again, result, same, -⟩
    · exact holds file kept
    · exact absurd created notCreated
    · cases same
      exact absurd rests notFilled
  · cases same
    obtain ⟨owner, last⟩ := filled_name named rests
    refine ⟨owner, last, fun file there => ?_⟩
    cases effect with
    | same told => exact told.elim
    | fillStaging =>
      rw [Depot.setStaging_self] at there
      obtain ⟨-, -, rfl⟩ := Option.map_eq_some_iff.mp there
      rfl

variable {digest : Text}

theorem Sealed.hear_hashed (sealed_ : Sealed agent crew) {answer : StoreSig.Ans act} {depot : Depot}
    (rests : RestsOn agent leave (crew.world.heard index) act)
    (effect : crew.world.Effect index ⟨act, answer⟩ depot) {file : StoredFile}
    (there : depot.objects digest = some file) :
    file.synced = true ∧ digest = objectDigest agent.objects.sha256 file.bytes := by
  rcases effect.stored there with kept | ⟨name, same, staged⟩
  · exact sealed_.hashed digest file kept
  · cases same
    obtain ⟨-, bytes, filled, measured⟩ := rests
    obtain ⟨moment, said⟩ := List.getElem?_of_mem filled
    rw [(sealed_.filled index moment name bytes said).2.2 file staged]
    exact ⟨rfl, measured⟩

theorem Sealed.safe (sealed_ : Sealed agent crew) (there : (crew.world.objects digest).isSome) :
    isPathSafeDigest digest = true := by
  obtain ⟨file, stored⟩ := Option.isSome_iff_exists.mp there
  rw [(sealed_.hashed digest file stored).2]
  exact contentId_safe _

theorem Sealed.step (resides : Resides service crew) (named : Named crew)
    (sealed_ : Sealed agent crew)
    (stepped : next service crew label = some after) : Sealed agent after := by
  cases step_of_next stepped with
  | begin_ admitted => exact ⟨sealed_.filled, sealed_.hashed, sealed_.scanned⟩
  | crash staging objects =>
    refine ⟨fun index moment name bytes said => ?_, fun digest file there => ?_, sealed_.scanned⟩
    · obtain ⟨owner, instant, holds⟩ := sealed_.filled index moment name bytes said
      refine ⟨owner, instant, fun file there => ?_⟩
      obtain ⟨old, before, rfl⟩ := Option.map_eq_some_iff.mp there
      rw [holds old before]
      rfl
    · obtain ⟨old, before, rfl⟩ := Option.map_eq_some_iff.mp there
      obtain ⟨synced, measured⟩ := sealed_.hashed digest old before
      rw [Depot.survived, if_pos synced]
      exact ⟨synced, measured⟩
  | @step index choice role act continuation answer depot found effect answered =>
    have rests := resides.rests found
    refine ⟨fun other moment name bytes said => sealed_.hear_filled named rests effect said,
      fun digest file there => sealed_.hear_hashed rests effect there, ?_⟩
    intro other digest said
    obtain ⟨moment, located⟩ := List.getElem?_of_mem said
    rcases Depot.heard_cases effect.heard located with old | ⟨rfl, -, same⟩
    · exact sealed_.scanned other digest (List.mem_of_getElem? old)
    · cases same
      cases effect with
      | same told => exact sealed_.safe told

theorem sealed_of_reach (reached : reach service labels = some crew) : Sealed agent crew := by
  have invariant : Resides service crew ∧ Named crew ∧ Sealed agent crew := by
    refine run_invariant (P := fun crew => Resides service crew ∧ Named crew ∧ Sealed agent crew)
      (fun ⟨resides, named, sealed_⟩ stepped => ?_) ?_ reached
    · exact ⟨resides.step stepped, named.step stepped, sealed_.step resides named stepped⟩
    · refine ⟨resides_initial, named_initial, ⟨?_, ?_, ?_⟩⟩ <;> simp [initial, Depot.empty]
  exact invariant.2.2

theorem safe_of_rests (sealed_ : Sealed agent crew)
    (rests : RestsOn agent leave (crew.world.heard index) act) (told : act.digest? = some digest) :
    isPathSafeDigest digest = true := by
  cases act with
  | publish name published =>
    obtain ⟨-, bytes, -, measured⟩ := rests
    cases told
    rw [measured]
    exact contentId_safe _
  | isObject looked =>
    obtain ⟨bytes, measured⟩ := rests
    cases told
    rw [measured]
    exact contentId_safe _
  | readObject read =>
    cases told
    exact rests
  | removeObject gone =>
    cases told
    exact rests.1
  | sweepObject gone =>
    cases told
    exact sealed_.scanned index digest rests.2.1
  | _ => cases told

/-- **Local objects hash to their names**, in every interleaving of the verbs and of calls of the
store, with kills at any point, for any bucket and any manifest: every file in the directory of
objects is named by the digest of its contents, and whatever digest a task is about to look up,
create, open or delete a file by leads to the file of that name in that directory. -/
theorem objects_hash_to_names (agent : CapsuleAgent) (root : Path)
    {labels : List (CrewLabel (Verb ⊕ StoreCall))} {crew : Crew (Verb ⊕ StoreCall)}
    (reached : reach (everyone agent) labels = some crew) :
    (∀ digest file, crew.world.objects digest = some file →
        digest = objectDigest agent.objects.sha256 file.bytes) ∧
      ∀ index act digest, crew.asks index = some act → act.digest? = some digest →
        objectPath root digest = root ++ ["objects".toList, digest.val.toList] := by
  have sealed_ := sealed_of_reach reached
  refine ⟨fun digest file there => (sealed_.hashed digest file there).2, ?_⟩
  intro index act digest asked told
  obtain ⟨role, continuation, found⟩ := asks_eq_some.mp asked
  exact objectPath_safe root (safe_of_rests sealed_ ((resides_of_reach reached).rests found) told)

/-- An honest upload, and one that is killed after it was asked to publish under another directory's
name. -/
def sampleUploads : List (CrewLabel (Verb ⊕ StoreCall)) :=
  [.begin_ (.inr (.commit sampleBytes (objectDigest checksum sampleBytes) 3)),
    .begin_ (.inr (.commit sampleBytes ⟨"../journal", by decide⟩ 3))] ++
  pass 0 (calmly 4) ++ pass 1 (calmly 2) ++ [.crash (fun _ => .empty) fun _ => .empty]

theorem sampleUploads_hashed :
    ∃ crew digest file, reach (everyone sampleAgent) sampleUploads = some crew ∧
    crew.world.objects digest = some file ∧ digest = objectDigest checksum file.bytes := by
  have published : ((reach (everyone sampleAgent) sampleUploads).any fun crew =>
      (crew.world.objects (objectDigest checksum sampleBytes)).isSome) = true := by
    decide +kernel
  obtain ⟨crew, reached, there⟩ := (Option.any_eq_true _ _).mp published
  obtain ⟨file, stored⟩ := Option.isSome_iff_exists.mp there
  exact ⟨crew, _, file, reached, stored, (objects_hash_to_names sampleAgent [] reached).1
    _ file stored⟩

end Crew

end Barista.Capsule
