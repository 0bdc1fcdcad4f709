import Mathlib.Algebra.BigOperators.Group.List.Basic
import Barista.Foundation.Run
import Barista.Node.Journal
import Barista.Capsule.Manifest

/-!
Contract: the journal's tables for capsules and immutable objects.

A capsule takes one reference on each object its manifest lists, in the transaction that registers
it, and gives them back in the one that deletes it. An object nobody refers to any more is marked for
collection; its row goes when its bytes are gone.

Owns: the three tables, their transactions, and the exactness of the reference counts in every run of
them. Does not own: the bytes, or who calls the transactions and when.
-/

namespace Barista.Capsule

open Foundation
open Node (SnapshotRow)

/-! ### Rows -/

inductive CapsuleStorage where
  | unspecified | localDir | objectStore
deriving DecidableEq, Repr

/-- The order behind keeping the strongest verified storage fact. -/
def capsuleTierRank : CapsuleStorage → Nat
  | .unspecified => 0
  | .localDir => 1
  | .objectStore => 2

structure CapsuleRow where
  capsuleId : Text
  manifest : CapsuleManifest
  storage : CapsuleStorage
  totalSize : Nat
  createdAtMs : Int
deriving DecidableEq

structure ObjectRef where
  digest : Text
  length : UInt64
  refcount : Int
  verified : Bool
  gcPending : Bool
deriving DecidableEq

abbrev ObjectRefs := Table [ObjectRef.digest]

structure Registry where
  capsules : Table [CapsuleRow.capsuleId]
  objectRefs : ObjectRefs
  snapshots : Table [SnapshotRow.snapshotId]

def Registry.empty : Registry := ⟨.empty, .empty, .empty⟩

def importedSnapshotId (capsuleId : Text) : String := "capsule:" ++ capsuleId.val

/-! ### References -/

namespace ObjectRefs

/-- Take a reference on an object whose bytes were verified. A fresh reference also clears the mark
an earlier delete has left. -/
def take (refs : ObjectRefs) (object : CapsuleObject) : ObjectRefs :=
  match refs.insert? ⟨object.digest, object.length, 1, true, false⟩ with
  | some next => next
  | none => refs.update (fun ref => ref.digest = object.digest)
      (fun ref => { ref with refcount := ref.refcount + 1, verified := true, gcPending := false })
      (by simp)

/-- Give one back, and mark the object once nobody refers to it. -/
def release (refs : ObjectRefs) (object : CapsuleObject) : ObjectRefs :=
  refs.update (fun ref => ref.digest = object.digest)
    (fun ref => { ref with
      refcount := max (ref.refcount - 1) 0
      gcPending := if ref.refcount - 1 ≤ 0 then true else ref.gcPending })
    (by simp)

def row? (refs : ObjectRefs) (digest : Text) : Option ObjectRef :=
  refs.find? fun ref => ref.digest = digest

def refcount (refs : ObjectRefs) (digest : Text) : Int :=
  ((refs.row? digest).map ObjectRef.refcount).getD 0

end ObjectRefs

/-! ### Transactions -/

namespace Registry

def capsule? (registry : Registry) (capsuleId : Text) : Option CapsuleRow :=
  registry.capsules.find? fun row => row.capsuleId = capsuleId

def promote (registry : Registry) (capsuleId : Text) (storage : CapsuleStorage) : Registry :=
  { registry with
    capsules := registry.capsules.update (fun row => row.capsuleId = capsuleId)
      (fun row => { row with storage := storage }) (by simp) }

/-- Register a capsule and take a reference on every object it lists. One that is there already only
gains a stronger storage fact. The row as it is afterwards is returned. -/
def registerCapsule (registry : Registry) (row : CapsuleRow) : CapsuleRow × Registry :=
  match registry.capsule? row.capsuleId with
  | some existing =>
    if capsuleTierRank existing.storage < capsuleTierRank row.storage then
      ({ existing with storage := row.storage }, registry.promote row.capsuleId row.storage)
    else (existing, registry)
  | none =>
    match registry.capsules.insert? row with
    | some capsules => (row, { registry with
        capsules := capsules
        objectRefs := row.manifest.objects.val.foldl ObjectRefs.take registry.objectRefs })
    | none => (row, registry)

/-- Delete a capsule and the snapshot row it is restorable under, and release the objects it lists.
An unknown one is left alone. -/
def deleteCapsule (registry : Registry) (capsuleId : Text) : Registry :=
  match registry.capsule? capsuleId with
  | none => registry
  | some row =>
    { capsules := registry.capsules.delete fun other => other.capsuleId = capsuleId
      snapshots := registry.snapshots.delete fun snapshot =>
        snapshot.snapshotId = importedSnapshotId capsuleId
      objectRefs := row.manifest.objects.val.foldl ObjectRefs.release registry.objectRefs }

def collectableObjects (registry : Registry) : List Text :=
  (registry.objectRefs.rows.filter fun ref => ref.gcPending && ref.refcount ≤ 0).map
    ObjectRef.digest

/-- Whether the row of a digest may go once its bytes are gone. -/
def collected (digest : Text) (ref : ObjectRef) : Bool :=
  ref.digest = digest && ref.refcount ≤ 0 && ref.gcPending

def finalizeObjectGc (registry : Registry) (digest : Text) : Registry :=
  { registry with objectRefs := registry.objectRefs.delete (collected digest) }

def insertSnapshot (registry : Registry) (row : SnapshotRow) : Registry :=
  { registry with snapshots := registry.snapshots.replace row }

def occurrences (registry : Registry) (digest : Text) : Nat :=
  (registry.capsules.rows.map fun row =>
    (row.manifest.objects.val.map CapsuleObject.digest).count digest).sum

end Registry

/-! ### What the transactions do to the counts -/

namespace ObjectRefs

variable {refs : ObjectRefs} {object : CapsuleObject} {digest : Text}

theorem row?_digest {ref : ObjectRef} (found : refs.row? digest = some ref) :
    ref.digest = digest := by
  simpa using (Table.mem_of_find? found).2

theorem row?_of_mem {ref : ObjectRef} (member : ref ∈ refs.rows) :
    refs.row? ref.digest = some ref := by
  cases found : refs.row? ref.digest with
  | none =>
    have missed := Table.find?_none found ref member
    simp at missed
  | some other =>
    have same : other.digest = ref.digest := row?_digest found
    rw [Table.eq_of_column List.mem_cons_self (Table.mem_of_find? found).1 member same]

theorem refcount_of_mem {ref : ObjectRef} (member : ref ∈ refs.rows) :
    refs.refcount ref.digest = ref.refcount := by
  rw [refcount, row?_of_mem member]
  rfl

theorem refcount_update {set : ObjectRef → ObjectRef} {keeps} (change : Int → Int)
    (changed : ∀ ref, (set ref).refcount = change ref.refcount)
    (kept : ∀ ref, (set ref).digest = ref.digest)
    (idle : refs.row? object.digest = none → change 0 = 0) :
    refcount (Table.update refs (fun ref => ref.digest = object.digest) set keeps) digest =
      if object.digest = digest then change (refs.refcount digest) else refs.refcount digest := by
  have untouched : ∀ ref, decide ((set ref).digest = digest) = decide (ref.digest = digest) := by
    intro ref
    rw [kept]
  rw [refcount, row?, Table.find?_update untouched, ← row?, refcount]
  cases found : refs.row? digest with
  | none =>
    split
    · next same =>
        rw [same] at idle
        exact (idle found).symm
    · rfl
  | some ref =>
    have named := row?_digest found
    subst named
    by_cases same : object.digest = ref.digest
    · simp [same, changed]
    · simp [same, Ne.symm same]

theorem refcount_take : (refs.take object).refcount digest =
      refs.refcount digest + if object.digest = digest then 1 else 0 := by
  unfold take
  split
  · next next inserted =>
      rw [refcount, row?, Table.find?_insert? inserted, ← row?, refcount]
      by_cases same : object.digest = digest
      · have absent : refs.row? digest = none := by
          refine List.find?_eq_none.mpr fun ref member => ?_
          have apart := (Table.insert?_rows inserted).2 _ List.mem_cons_self ref member
          simpa [← same] using apart
        simp [same, absent]
      · simp [same]
  · next clash =>
      obtain ⟨old, found⟩ := Table.find?_of_insert?_none clash
      have present : refs.row? object.digest ≠ none := by
        rw [row?, found]
        exact Option.some_ne_none old
      have updated := @refcount_update refs object digest (fun ref => { ref with
        refcount := ref.refcount + 1, verified := true, gcPending := false }) (by simp) (· + 1)
        (fun _ => rfl) (fun _ => rfl) (fun absent => absurd absent present)
      rw [updated]
      split <;> simp

theorem refcount_release : (refs.release object).refcount digest =
      if object.digest = digest then max (refs.refcount digest - 1) 0 else refs.refcount digest :=
  refcount_update (fun count => max (count - 1) 0) (fun _ => rfl) (fun _ => rfl) (fun _ => rfl)

theorem refcount_takeAll (objects : List CapsuleObject) :
    refcount (objects.foldl take refs) digest =
      refs.refcount digest + (objects.map CapsuleObject.digest).count digest := by
  induction objects generalizing refs with
  | nil => simp
  | cons object rest ih =>
    rw [List.foldl_cons, ih, refcount_take, List.map_cons, List.count_cons]
    by_cases same : object.digest = digest
    · simp [same]
      omega
    · rw [if_neg same, beq_eq_false_iff_ne.mpr same]
      simp

theorem refcount_releaseAll (objects : List CapsuleObject)
    (enough : ((objects.map CapsuleObject.digest).count digest : Int) ≤ refs.refcount digest) :
    refcount (objects.foldl release refs) digest =
      refs.refcount digest - (objects.map CapsuleObject.digest).count digest := by
  induction objects generalizing refs with
  | nil => simp
  | cons object rest ih =>
    rw [List.map_cons, List.count_cons] at enough ⊢
    by_cases same : object.digest = digest
    · simp only [same, beq_self_eq_true, if_true] at enough ⊢
      have remaining : refcount (refs.release object) digest = refs.refcount digest - 1 := by
        rw [refcount_release, if_pos same]
        omega
      rw [List.foldl_cons, ih (by omega), remaining]
      omega
    · have other : (object.digest == digest) = false := beq_eq_false_iff_ne.mpr same
      simp only [other] at enough ⊢
      have remaining : refcount (refs.release object) digest = refs.refcount digest := by
        rw [refcount_release, if_neg same]
      rw [List.foldl_cons, ih (by simpa [remaining] using enough), remaining]
      rfl

theorem refcount_delete {matching : ObjectRef → Bool}
    (idle : ∀ ref ∈ refs.rows, matching ref = true → ref.refcount = 0) :
    refcount (Table.delete refs matching) digest = refs.refcount digest := by
  cases found : row? (Table.delete refs matching) digest with
  | some ref =>
    obtain ⟨member, -⟩ := Table.mem_of_find? found
    have named := row?_digest found
    subst named
    rw [refcount_of_mem member, refcount_of_mem (Table.mem_delete.mp member).1]
  | none =>
    cases before : refs.row? digest with
    | none => rw [refcount, refcount, found, before]
    | some ref =>
      obtain ⟨member, hit⟩ := Table.mem_of_find? before
      have gone : matching ref = true := by
        by_contra kept
        have missed := Table.find?_none found ref
          (Table.mem_delete.mpr ⟨member, Bool.not_eq_true _ ▸ kept⟩)
        rw [hit] at missed
        cases missed
      rw [refcount, refcount, found, before]
      exact (idle ref member gone).symm

/-- A row is marked exactly when nobody refers to its object. -/
def Marked (refs : ObjectRefs) : Prop :=
  ∀ ref ∈ refs.rows, 0 ≤ ref.refcount ∧ (ref.gcPending = true ↔ ref.refcount = 0)

theorem Marked.take (marked : refs.Marked) : (refs.take object).Marked := by
  unfold ObjectRefs.take
  split
  · next next inserted =>
      intro ref member
      rw [(Table.insert?_rows inserted).1] at member
      rcases List.mem_append.mp member with old | new
      · exact marked ref old
      · rw [List.mem_singleton.mp new]
        simp
  · intro ref member
    obtain ⟨old, oldMember, rfl⟩ := Table.mem_update.mp member
    have counted := marked old oldMember
    split
    · refine ⟨by simp; omega, ?_⟩
      simp
      omega
    · exact counted

theorem Marked.release (marked : refs.Marked) : (refs.release object).Marked := by
  intro ref member
  obtain ⟨old, oldMember, rfl⟩ := Table.mem_update.mp member
  have counted := marked old oldMember
  split
  · refine ⟨le_max_right _ _, ?_⟩
    simp only
    split
    · simp
      omega
    · rw [counted.2]
      omega
  · exact counted

theorem Marked.takeAll (marked : refs.Marked) (objects : List CapsuleObject) :
    Marked (objects.foldl ObjectRefs.take refs) :=
  List.foldlRecOn objects ObjectRefs.take marked fun _ kept _ _ => kept.take

theorem Marked.releaseAll (marked : refs.Marked) (objects : List CapsuleObject) :
    Marked (objects.foldl ObjectRefs.release refs) :=
  List.foldlRecOn objects ObjectRefs.release marked fun _ kept _ _ => kept.release

end ObjectRefs

namespace Registry

variable {registry after : Registry} {row : CapsuleRow} {capsuleId digest : Text}

/-- **The counts are exact**: what is counted on an object is what the registered manifests list, and
an object is marked when that is nothing. -/
structure Exact (registry : Registry) : Prop where
  counts : ∀ digest, registry.objectRefs.refcount digest = registry.occurrences digest
  marked : registry.objectRefs.Marked

theorem exact_empty : Exact .empty := ⟨fun _ => rfl, by simp [ObjectRefs.Marked, empty]⟩

theorem occurrences_promote {storage : CapsuleStorage} :
    (registry.promote capsuleId storage).occurrences digest = registry.occurrences digest := by
  simp only [occurrences, promote, Table.update, List.map_map]
  congr 1
  refine List.map_congr_left fun row _ => ?_
  simp only [Function.comp_apply]
  split <;> rfl

theorem registerCapsule_cases (registry : Registry) (row : CapsuleRow) :
    (∃ existing, registry.capsule? row.capsuleId = some existing ∧
      (registry.registerCapsule row = ({ existing with storage := row.storage },
          registry.promote row.capsuleId row.storage) ∧
        capsuleTierRank existing.storage < capsuleTierRank row.storage ∨
      registry.registerCapsule row = (existing, registry) ∧
        ¬ capsuleTierRank existing.storage < capsuleTierRank row.storage)) ∨
    (registry.capsule? row.capsuleId = none ∧ ∃ capsules, capsules.rows = registry.capsules.rows ++
      [row] ∧ registry.registerCapsule row = (row, { registry with
        capsules := capsules
        objectRefs := row.manifest.objects.val.foldl ObjectRefs.take registry.objectRefs })) := by
  unfold registerCapsule
  cases found : registry.capsule? row.capsuleId with
  | some existing =>
    refine .inl ⟨existing, rfl, ?_⟩
    by_cases stronger : capsuleTierRank existing.storage < capsuleTierRank row.storage
    · exact .inl ⟨by simp [stronger], stronger⟩
    · exact .inr ⟨by simp [stronger], stronger⟩
  | none =>
    have fresh : ∃ capsules, registry.capsules.insert? row = some capsules := by
      cases inserted : registry.capsules.insert? row with
      | some capsules => exact ⟨capsules, rfl⟩
      | none =>
        obtain ⟨old, clash⟩ := Table.find?_of_insert?_none inserted
        rw [capsule?, clash] at found
        cases found
    obtain ⟨capsules, inserted⟩ := fresh
    exact .inr ⟨rfl, capsules, (Table.insert?_rows inserted).1, by simp [inserted]⟩

theorem mem_registerCapsule {later : CapsuleRow}
    (member : later ∈ (registry.registerCapsule row).2.capsules.rows) :
    later ∈ registry.capsules.rows ∨ later = row ∧ registry.capsule? row.capsuleId = none ∨
      ∃ existing ∈ registry.capsules.rows, existing.capsuleId = row.capsuleId ∧
        capsuleTierRank existing.storage < capsuleTierRank row.storage ∧
        later = { existing with storage := row.storage } := by
  obtain ⟨existing, found, ⟨same, stronger⟩ | ⟨same, -⟩⟩ | ⟨absent, capsules, rows, same⟩ :=
    registerCapsule_cases registry row <;> rw [same] at member
  · simp only [promote] at member
    obtain ⟨old, oldMember, rfl⟩ := Table.mem_update.mp member
    split
    · next named =>
        have named : old.capsuleId = row.capsuleId := by simpa using named
        obtain ⟨there, hit⟩ := Table.mem_of_find? found
        have alike : existing = old :=
          Table.eq_of_column List.mem_cons_self there oldMember (by rw [named]; simpa using hit)
        exact .inr (.inr ⟨old, oldMember, named, alike ▸ stronger, rfl⟩)
    · exact .inl oldMember
  · exact .inl member
  · rw [rows] at member
    rcases List.mem_append.mp member with old | new
    · exact .inl old
    · exact .inr (.inl ⟨List.mem_singleton.mp new, absent⟩)

theorem mem_deleteCapsule {later : CapsuleRow}
    (member : later ∈ (registry.deleteCapsule capsuleId).capsules.rows) :
    later ∈ registry.capsules.rows := by
  unfold deleteCapsule at member
  split at member
  · exact member
  · exact (Table.mem_delete.mp member).1

theorem Exact.registerCapsule (exact_ : registry.Exact) (row : CapsuleRow) :
    Exact (registry.registerCapsule row).2 := by
  obtain ⟨existing, -, ⟨same, -⟩ | ⟨same, -⟩⟩ | ⟨-, capsules, rows, same⟩ :=
    registerCapsule_cases registry row <;> rw [same]
  · exact ⟨fun digest => (exact_.counts digest).trans (by rw [occurrences_promote]), exact_.marked⟩
  · exact exact_
  · refine ⟨fun digest => ?_, exact_.marked.takeAll _⟩
    rw [ObjectRefs.refcount_takeAll, exact_.counts]
    simp [occurrences, rows]

theorem occurrences_found (found : registry.capsule? capsuleId = some row) :
    registry.occurrences digest =
      (row.manifest.objects.val.map CapsuleObject.digest).count digest +
        (registry.deleteCapsule capsuleId).occurrences digest := by
  have taken := (Table.perm_delete found).map fun row : CapsuleRow =>
    (row.manifest.objects.val.map CapsuleObject.digest).count digest
  simp only [occurrences, deleteCapsule, found]
  rw [taken.sum_eq, List.map_cons, List.sum_cons]

theorem Exact.deleteCapsule (exact_ : registry.Exact) (capsuleId : Text) :
    Exact (registry.deleteCapsule capsuleId) := by
  cases found : registry.capsule? capsuleId with
  | none =>
    simp only [Registry.deleteCapsule, found]
    exact exact_
  | some row =>
    have released : (registry.deleteCapsule capsuleId).objectRefs =
        row.manifest.objects.val.foldl ObjectRefs.release registry.objectRefs := by
      simp only [Registry.deleteCapsule, found]
    refine ⟨fun digest => ?_, released ▸ exact_.marked.releaseAll _⟩
    have listed : registry.occurrences digest = _ + _ := occurrences_found found
    have counted := exact_.counts digest
    rw [released, ObjectRefs.refcount_releaseAll _ (by omega)]
    omega

theorem Exact.collected (exact_ : registry.Exact) {ref : ObjectRef}
    (member : ref ∈ registry.objectRefs.rows) (hit : collected digest ref = true) :
    ref.refcount = 0 := by
  simp only [Registry.collected, Bool.and_eq_true, decide_eq_true_eq] at hit
  exact le_antisymm hit.1.2 (exact_.marked ref member).1

theorem Exact.finalizeObjectGc (exact_ : registry.Exact) (digest : Text) :
    Exact (registry.finalizeObjectGc digest) := by
  refine ⟨fun other => ?_, fun ref member => exact_.marked ref (Table.mem_delete.mp member).1⟩
  have kept : (registry.finalizeObjectGc digest).objectRefs.refcount other =
      registry.objectRefs.refcount other :=
    ObjectRefs.refcount_delete fun _ => exact_.collected
  rw [kept]
  exact exact_.counts other

/-! ### Runs -/

inductive Op where
  | registerCapsule (row : CapsuleRow)
  | deleteCapsule (capsuleId : Text)
  | collectableObjects
  | finalizeObjectGc (digest : Text)
  | crash

/-- What a transaction leaves. A crash leaves what was committed. -/
def next (registry : Registry) : Op → Option Registry
  | .registerCapsule row => some (registry.registerCapsule row).2
  | .deleteCapsule capsuleId => some (registry.deleteCapsule capsuleId)
  | .collectableObjects => some registry
  | .finalizeObjectGc digest => some (registry.finalizeObjectGc digest)
  | .crash => some registry

theorem Exact.next {op : Op} (exact_ : registry.Exact) (stepped : registry.next op = some after) :
    after.Exact := by
  cases op with
  | registerCapsule row =>
    cases stepped
    exact exact_.registerCapsule row
  | deleteCapsule capsuleId =>
    cases stepped
    exact exact_.deleteCapsule capsuleId
  | collectableObjects =>
    cases stepped
    exact exact_
  | finalizeObjectGc digest =>
    cases stepped
    exact exact_.finalizeObjectGc digest
  | crash =>
    cases stepped
    exact exact_

/-- **Reference counts are exact** in every journal the transactions reach from an empty one: the
count of every digest is the number of times the registered manifests list it, a row is marked
exactly when its count is zero, and what collection finally deletes are rows with count zero. -/
theorem refcounts_exact {ops : List Op} (reached : run next .empty ops = some registry) :
    (∀ digest, registry.objectRefs.refcount digest = registry.occurrences digest) ∧
      (∀ ref ∈ registry.objectRefs.rows, ref.gcPending = true ↔ ref.refcount = 0) ∧
      ∀ digest, ∀ ref ∈ registry.objectRefs.rows,
        ref ∉ (registry.finalizeObjectGc digest).objectRefs.rows → ref.refcount = 0 := by
  have exact_ : registry.Exact := run_invariant Exact.next exact_empty reached
  refine ⟨exact_.counts, fun ref member => (exact_.marked ref member).2, ?_⟩
  intro digest ref member gone
  have hit : collected digest ref = true := by
    by_contra kept
    exact gone (Table.mem_delete.mpr ⟨member, Bool.not_eq_true _ ▸ kept⟩)
  exact exact_.collected member hit

/-- Two capsules that share an object, one of them listing it twice. -/
def sampleOps : List Op :=
  let row (capsuleId : Text) (manifest : CapsuleManifest) : CapsuleRow :=
    ⟨capsuleId, manifest, .localDir, 0, 0⟩
  [.registerCapsule (row ⟨"a", by decide⟩ sampleManifest),
    .registerCapsule (row ⟨"b", by decide⟩ { sampleManifest with
      objects := ⟨[sampleMemory], by simp⟩ }),
    .registerCapsule (row ⟨"a", by decide⟩ sampleManifest), .crash,
    .deleteCapsule ⟨"b", by decide⟩, .deleteCapsule ⟨"b", by decide⟩]

/-- The replayed delete gives nothing back, and the re-registration took nothing. -/
theorem sampleOps_counts : ∃ registry, run next .empty sampleOps = some registry ∧
    registry.objectRefs.refcount (sampleObject "mem" (by decide)).digest = 2 := by
  have listed : ((run next .empty sampleOps).any fun registry =>
      registry.occurrences (sampleObject "mem" (by decide)).digest = 2) = true := by decide +kernel
  obtain ⟨registry, reached, twice⟩ := exists_of_any listed
  refine ⟨registry, reached, ?_⟩
  rw [(refcounts_exact reached).1, twice]
  rfl

end Registry

end Barista.Capsule
