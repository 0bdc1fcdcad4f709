import Mathlib.Data.List.Basic
import Mathlib.Order.Nat

/-!
Contract: lists in the order of a number their items carry.

Owns: what membership says about such lists, about their initial parts, and about their last items.
-/

namespace Barista.Foundation

variable {α : Type} {key : α → Nat}

/-- Each item carries a larger number than those before it. -/
def Ascending (key : α → Nat) (items : List α) : Prop := items.Pairwise fun left right =>
    key left < key right

namespace Ascending

variable {items : List α} {item other : α}

theorem nil : Ascending key [] := List.Pairwise.nil

theorem sublist {part : List α} (ascending : Ascending key items) (within : part.Sublist items) :
    Ascending key part :=
  List.Pairwise.sublist within ascending

theorem filter (ascending : Ascending key items) (keep : α → Bool) :
    Ascending key (items.filter keep) :=
  ascending.sublist List.filter_sublist

theorem take (ascending : Ascending key items) (count : Nat) : Ascending key (items.take count) :=
  ascending.sublist (List.take_sublist ..)

theorem snoc (ascending : Ascending key items) (above : ∀ old ∈ items, key old < key item) :
    Ascending key (items ++ [item]) := by
  refine List.pairwise_append.mpr ⟨ascending, List.pairwise_singleton .., ?_⟩
  intro old member new last
  rw [List.mem_singleton.mp last]
  exact above old member

theorem eq_of_key (ascending : Ascending key items) (left : item ∈ items) (right : other ∈ items)
    (same : key item = key other) : item = other := by
  induction items with
  | nil => cases left
  | cons first rest ih =>
    obtain ⟨below, ordered⟩ := List.pairwise_cons.mp ascending
    rcases List.mem_cons.mp left with rfl | leftLater <;>
      rcases List.mem_cons.mp right with rfl | rightLater
    · rfl
    · exact absurd same (below other rightLater).ne
    · exact absurd same.symm (below item leftLater).ne
    · exact ih ordered leftLater rightLater

theorem head_le {rest : List α} (ascending : Ascending key (item :: rest))
    (member : other ∈ item :: rest) : key item ≤ key other := by
  rcases List.mem_cons.mp member with rfl | later
  · exact le_rfl
  · exact ((List.pairwise_cons.mp ascending).1 other later).le

theorem take_lt (ascending : Ascending key items) {count : Nat} (early : item ∈ items.take count)
    (member : other ∈ items) (left : other ∉ items.take count) : key item < key other := by
  rw [← List.take_append_drop count items] at member ascending
  rcases List.mem_append.mp member with among | late
  · exact absurd among left
  · exact (List.pairwise_append.mp ascending).2.2 item early other late

theorem le_last {final : α} (ascending : Ascending key items) (last : items.getLast? = some final)
    (member : item ∈ items) : key item ≤ key final := by
  obtain ⟨front, rfl⟩ := List.getLast?_eq_some_iff.mp last
  rcases List.mem_append.mp member with early | same
  · exact ((List.pairwise_append.mp ascending).2.2 item early final (by simp)).le
  · exact (congrArg key (List.mem_singleton.mp same)).le

/-- **An initial part holds what carries no more than its last item does.** -/
theorem mem_take_iff (ascending : Ascending key items) (count : Nat) : item ∈ items.take count ↔
      item ∈ items ∧ ∃ final, (items.take count).getLast? = some final ∧ key item ≤ key final := by
  constructor
  · intro early
    obtain ⟨final, last⟩ : ∃ final, (items.take count).getLast? = some final := by
      cases found : (items.take count).getLast? with
      | none =>
        rw [List.getLast?_eq_none_iff.mp found] at early
        cases early
      | some final => exact ⟨final, rfl⟩
    exact ⟨List.mem_of_mem_take early, final, last, (ascending.take count).le_last last early⟩
  · rintro ⟨member, final, last, bounded⟩
    by_contra left
    exact absurd (ascending.take_lt (List.mem_of_getLast? last) member left)
      (Nat.not_lt.mpr bounded)

end Ascending

end Barista.Foundation
