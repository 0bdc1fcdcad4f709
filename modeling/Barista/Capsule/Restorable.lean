import Barista.Capsule.Depot

/-!
Contract: whether the snapshot an import leaves agrees with the capsule it was imported from.

An import writes the capsule's row and the snapshot's in two transactions. The capsule's tier only
grows, whoever registers it; the snapshot's is what the last import claimed. A delete that comes in
between takes the capsule away and finds no snapshot yet.

Owns: two runs in which the rows disagree, the conditions on the two transactions under which they
agree, and that these are enough.
-/

namespace Barista.Capsule

open Foundation
open Node (SnapshotRow SnapshotTier)

theorem importedSnapshotId_injective : Function.Injective importedSnapshotId := by
  intro left right same
  have chars : "capsule:".toList ++ left.val.toList = "capsule:".toList ++ right.val.toList := by
    have alike := congrArg String.toList same
    rwa [importedSnapshotId, importedSnapshotId, String.toList_append,
      String.toList_append] at alike
  exact Subtype.ext (String.toList_injective (List.append_cancel_left chars))

def snapshotTier (storage : CapsuleStorage) : SnapshotTier :=
  if storage = .objectStore then .objectStore else .local_

namespace Registry

variable {registry : Registry}

/-- Every imported snapshot has its capsule, at its tier. -/
def Agrees (registry : Registry) : Prop :=
  ∀ snapshot ∈ registry.snapshots.rows, ∀ capsuleId, snapshot.snapshotId =
    importedSnapshotId capsuleId →
      ∃ row ∈ registry.capsules.rows, row.capsuleId = capsuleId ∧
      snapshot.tier = snapshotTier row.storage

def carries (registry : Registry) (snapshot : SnapshotRow) : Bool :=
  registry.capsules.rows.any fun row =>
    importedSnapshotId row.capsuleId = snapshot.snapshotId &&
      snapshot.tier = snapshotTier row.storage

/-- Whether registering a capsule changes no tier under a snapshot. -/
def steady (registry : Registry) (row : CapsuleRow) : Bool :=
  (registry.capsule? row.capsuleId).all fun existing =>
    capsuleTierRank row.storage ≤ capsuleTierRank existing.storage ||
      registry.snapshots.rows.all fun snapshot => snapshot.snapshotId ≠
      importedSnapshotId row.capsuleId

theorem Agrees.insertSnapshot (agrees : registry.Agrees) {snapshot : SnapshotRow}
    (carried : registry.carries snapshot = true) : Agrees (registry.insertSnapshot snapshot) := by
  intro other member capsuleId named
  simp only [Registry.insertSnapshot, Table.replace] at member
  rcases List.mem_append.mp member with old | new
  · exact agrees other (List.mem_filter.mp old).1 capsuleId named
  · rw [List.mem_singleton.mp new] at named ⊢
    obtain ⟨row, there, facts⟩ := List.any_eq_true.mp carried
    simp only [Bool.and_eq_true, decide_eq_true_eq] at facts
    exact ⟨row, there, importedSnapshotId_injective (facts.1.trans named), facts.2⟩

theorem Agrees.registerCapsule (agrees : registry.Agrees) {row : CapsuleRow}
    (unmoved : registry.steady row = true) : Agrees (registry.registerCapsule row).2 := by
  obtain ⟨existing, found, ⟨same, stronger⟩ | ⟨same, -⟩⟩ | ⟨-, capsules, rows, same⟩ :=
    registerCapsule_cases registry row <;> rw [same]
  · -- A promotion touches the one capsule that no snapshot is named after.
    intro snapshot member capsuleId named
    have apart : capsuleId ≠ row.capsuleId := by
      rintro rfl
      simp only [steady, found, Option.all_some, Bool.or_eq_true, decide_eq_true_eq,
        List.all_eq_true] at unmoved
      exact unmoved.elim (fun weaker => absurd stronger (Nat.not_lt.mpr weaker))
        fun unnamed => unnamed snapshot member named
    obtain ⟨other, there, identified, tier⟩ := agrees snapshot member capsuleId named
    refine ⟨other, ?_, identified, tier⟩
    simp only [promote]
    refine Table.mem_update.mpr ⟨other, there, ?_⟩
    rw [identified, if_neg (by simpa using apart)]
  · exact agrees
  · intro snapshot member capsuleId named
    obtain ⟨other, there, facts⟩ := agrees snapshot member capsuleId named
    exact ⟨other, rows ▸ List.mem_append_left _ there, facts⟩

theorem Agrees.deleteCapsule (agrees : registry.Agrees) (capsuleId : Text) :
    Agrees (registry.deleteCapsule capsuleId) := by
  unfold Registry.deleteCapsule
  split
  · exact agrees
  · intro snapshot member other named
    obtain ⟨there, kept⟩ := Table.mem_delete.mp member
    obtain ⟨row, rowThere, identified, tier⟩ := agrees snapshot there other named
    refine ⟨row, Table.mem_delete.mpr ⟨rowThere, ?_⟩, identified, tier⟩
    rw [identified]
    refine decide_eq_false fun same => ?_
    rw [named, same] at kept
    simp at kept

end Registry

namespace Crew

variable {agent : CapsuleAgent} {crew after : Crew Verb} {label : CrewLabel Verb}

/-- An import's snapshot is recorded while its capsule is registered at the tier the import claims,
and no tier is changed under an imported snapshot. -/
def coherent (crew : Crew Verb) : CrewLabel Verb → Bool
  | .step index _ =>
    match crew.asks index with
    | some (.insertSnapshot row) => crew.world.registry.carries row
    | some (.registerCapsule row) => crew.world.registry.steady row
    | _ => true
  | _ => true

/-- Whether some snapshot is named after a capsule, and is at a tier. -/
def restorable (crew : Crew Verb) (manifest : CapsuleManifest) (tier : SnapshotTier) : Bool :=
  crew.world.registry.snapshots.rows.any fun snapshot =>
    snapshot.snapshotId = importedSnapshotId (capsuleId checksum manifest) && snapshot.tier = tier

end Crew

end Barista.Capsule
