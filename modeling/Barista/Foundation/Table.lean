import Mathlib.Data.List.Nodup

/-!
Contract: tables of rows with unique columns, as a small SQL database keeps them.

A `Table` carries the uniqueness of its columns, so that a table with two rows under
one key cannot be built. Rows keep their insertion order.

Owns: guarded updates, inserts that fail on a clash, deletes, lookups by a unique
column, and the membership lemma of each.
-/

namespace Barista.Foundation

variable {Row Key : Type}

/-- Rows no two of which agree on any of the given columns. -/
structure Table (columns : List (Row → Key)) where
  rows : List Row
  unique : ∀ column ∈ columns, (rows.map column).Nodup

namespace Table

variable {columns : List (Row → Key)}

def empty : Table columns := ⟨[], by simp⟩

/-- `SELECT … WHERE`, one row at most. -/
def find? (table : Table columns) (matching : Row → Bool) : Option Row :=
  table.rows.find? matching

/-- `SELECT COUNT(*) … WHERE`, and the number of rows a guarded update changes. -/
def count (table : Table columns) (matching : Row → Bool) : Nat :=
  table.rows.countP matching

/-- `UPDATE … SET … WHERE`, leaving the unique columns alone. -/
def update (table : Table columns) (matching : Row → Bool) (set : Row → Row)
    (keeps : ∀ column ∈ columns, ∀ row, column (set row) = column row) : Table columns where
  rows := table.rows.map fun row => if matching row then set row else row
  unique := by
    intro column member
    have same : (column ∘ fun row => if matching row then set row else row) = column := by
      funext row
      by_cases hit : matching row = true
      · simp [hit, keeps column member row]
      · simp [hit]
    rw [List.map_map, same]
    exact table.unique column member

/-- `DELETE … WHERE`. -/
def delete (table : Table columns) (matching : Row → Bool) : Table columns where
  rows := table.rows.filter fun row => !matching row
  unique := fun column member =>
    (table.unique column member).sublist (List.filter_sublist.map column)

/-- `INSERT`, or `none` when a unique column clashes. -/
def insert? [DecidableEq Key] (table : Table columns) (row : Row) : Option (Table columns) :=
  if fresh : ∀ column ∈ columns, column row ∉ table.rows.map column then
    some {
      rows := table.rows ++ [row]
      unique := by
        intro column member
        rw [List.map_append, List.nodup_append]
        refine ⟨table.unique column member, by simp, ?_⟩
        intro old oldMember new newMember same
        rw [List.map_singleton, List.mem_singleton] at newMember
        subst newMember same
        exact fresh column member oldMember }
  else none

/-- `INSERT OR REPLACE`: the rows that clash go. -/
def replace [DecidableEq Key] (table : Table columns) (row : Row) : Table columns where
  rows := (table.rows.filter fun old => columns.all fun column => column old ≠ column row) ++ [row]
  unique := by
    intro column member
    rw [List.map_append, List.nodup_append]
    refine ⟨(table.unique column member).sublist (List.filter_sublist.map column), by simp, ?_⟩
    intro old oldMember new newMember same
    obtain ⟨kept, keptMember, rfl⟩ := List.mem_map.mp oldMember
    rw [List.map_singleton, List.mem_singleton] at newMember
    have differs := List.all_eq_true.mp (List.mem_filter.mp keptMember).2 column member
    exact of_decide_eq_true differs (same.trans newMember)

variable {table next : Table columns} {row : Row} {matching : Row → Bool}

@[simp] theorem rows_empty : (empty : Table columns).rows = [] := rfl

theorem eq_of_rows (same : next.rows = table.rows) : next = table := by
  cases next
  cases table
  cases same
  rfl

variable {set : Row → Row} {keeps : ∀ column ∈ columns, ∀ row, column (set row) = column row}

theorem mem_update : row ∈ (table.update matching set keeps).rows ↔
      ∃ old ∈ table.rows, row = if matching old then set old else old := by
  simp only [update, List.mem_map]
  exact exists_congr fun old => and_congr_right fun _ => eq_comm

theorem mem_delete : row ∈ (table.delete matching).rows ↔ row ∈ table.rows ∧
    matching row = false := by
  simp [delete]

variable {new : Row}

theorem insert?_rows [DecidableEq Key] (inserted : table.insert? new = some next) :
    next.rows = table.rows ++ [new] ∧ ∀ column ∈ columns, ∀ old ∈ table.rows, column old ≠
      column new := by
  unfold insert? at inserted
  split at inserted
  · next fresh =>
      cases inserted
      refine ⟨rfl, fun column member old oldMember same => ?_⟩
      exact fresh column member (List.mem_map.mpr ⟨old, oldMember, same⟩)
  · cases inserted

theorem mem_of_find? (found : table.find? matching = some row) :
    row ∈ table.rows ∧ matching row = true :=
  ⟨List.mem_of_find?_eq_some found, List.find?_some found⟩

theorem insert?_fresh [DecidableEq Key]
    (fresh : ∀ column ∈ columns, ∀ old ∈ table.rows, column old ≠ column new) :
    ∃ next, table.insert? new = some next := by
  unfold insert?
  rw [dif_pos]
  · exact ⟨_, rfl⟩
  · intro column member clash
    obtain ⟨old, oldMember, same⟩ := List.mem_map.mp clash
    exact fresh column member old oldMember same

theorem find?_none (absent : table.find? matching = none) :
    ∀ row ∈ table.rows, matching row = false := by
  simpa [find?] using absent

variable {wanted : Row → Bool}

theorem find?_update (untouched : ∀ row, wanted (set row) = wanted row) :
    (table.update matching set keeps).find? wanted =
      (table.find? wanted).map fun row => if matching row then set row else row := by
  have same : (wanted ∘ fun row => if matching row then set row else row) = wanted := by
    funext row
    by_cases hit : matching row = true
    · simp [hit, untouched]
    · simp [hit]
  simp only [find?, update, List.find?_map, same]

theorem find?_insert? [DecidableEq Key] (inserted : table.insert? new = some next) :
    next.find? wanted = (table.find? wanted).or (if wanted new then some new else none) := by
  rw [find?, (insert?_rows inserted).1, List.find?_append]
  by_cases hit : wanted new = true <;> simp [find?, hit]

theorem update_congr (alike : ∀ row ∈ table.rows, matching row = wanted row) :
    table.update matching set keeps = table.update wanted set keeps := by
  refine eq_of_rows (List.map_congr_left fun row member => ?_)
  rw [alike row member]

theorem update_none (missed : ∀ row ∈ table.rows, matching row = false) :
    table.update matching set keeps = table := by
  refine eq_of_rows ?_
  have unchanged : ∀ row ∈ table.rows, (if matching row then set row else row) = row := by
    intro row member
    rw [missed row member]
    rfl
  exact (List.map_congr_left unchanged).trans (List.map_id _)

theorem count_eq_zero : table.count matching = 0 ↔ ∀ row ∈ table.rows, matching row = false := by
  simp [count, List.countP_eq_zero]

theorem insert?_none [DecidableEq Key] (failed : table.insert? new = none) :
    ∃ column ∈ columns, ∃ old ∈ table.rows, column old = column new := by
  by_contra none
  push Not at none
  obtain ⟨next, inserted⟩ := insert?_fresh none
  rw [failed] at inserted
  cases inserted

variable {column : Row → Key}

/-- Where a row with a new value cannot be inserted, a lookup by that value finds one. -/
theorem find?_of_insert?_none [DecidableEq Key] {table : Table [column]}
    (failed : table.insert? new = none) :
    ∃ old, table.find? (fun row => column row = column new) = some old := by
  obtain ⟨other, member, old, oldMember, same⟩ := insert?_none failed
  rw [List.mem_singleton.mp member] at same
  cases found : table.find? fun row => column row = column new with
  | some row => exact ⟨row, rfl⟩
  | none => exact absurd same (of_decide_eq_false (find?_none found old oldMember))

theorem eq_of_column (member : column ∈ columns) {left right : Row} (leftMem : left ∈ table.rows)
    (rightMem : right ∈ table.rows) (same : column left = column right) : left = right :=
  List.inj_on_of_nodup_map (table.unique column member) leftMem rightMem same

theorem perm_delete [DecidableEq Key] {table : Table [column]} {key : Key}
    (found : table.find? (fun row => column row = key) = some row) :
    table.rows.Perm (row :: (table.delete fun row => column row = key).rows) := by
  obtain ⟨member, hit⟩ := mem_of_find? found
  have named : column row = key := of_decide_eq_true hit
  have unique := table.unique column List.mem_cons_self
  have distinct : table.rows.Nodup := unique.of_map
  refine (List.perm_ext_iff_of_nodup distinct (List.nodup_cons.mpr ⟨?_, ?_⟩)).mpr fun other => ?_
  · intro kept
    exact of_decide_eq_false (mem_delete.mp kept).2 named
  · exact distinct.filter _
  · rw [List.mem_cons, mem_delete]
    constructor
    · intro otherMember
      by_cases same : column other = key
      · exact .inl (eq_of_column List.mem_cons_self otherMember member (same.trans named.symm))
      · exact .inr ⟨otherMember, decide_eq_false same⟩
    · rintro (rfl | ⟨otherMember, -⟩)
      · exact member
      · exact otherMember

end Table

end Barista.Foundation
