import Mathlib.Data.List.DropRight
import Mathlib.Order.Basic

/-!
Contract: stripping a text's ends.

Owns: stripping a pattern from the front as often as it is there, and items from both ends, with what
neither of them can reach.
-/

namespace Barista.Foundation

variable {α : Type}

/-- Strip a pattern from the front for as long as the text begins with it. -/
def trimStart [DecidableEq α] (pattern text : List α) : List α :=
  if _ : pattern ≠ [] ∧ pattern <+: text then trimStart pattern (text.drop pattern.length) else text
termination_by text.length
decreasing_by
  rename_i begins
  have nonempty := List.length_pos_iff.mpr begins.1
  have within := begins.2.length_le
  rw [List.length_drop]
  omega

theorem begins_append_iff {pattern front back : List α} {last : α}
    (ends : pattern.getLast? = some last)
    (absent : last ∉ back) : pattern <+: front ++ back ↔ pattern <+: front := by
  refine ⟨fun ⟨rest, whole⟩ => ?_, fun begins => begins.trans (List.prefix_append ..)⟩
  rcases List.append_eq_append_iff.mp whole with ⟨more, within, -⟩ | ⟨part, across, behind⟩
  · exact ⟨more, within.symm⟩
  · cases part with
    | nil => exact ⟨[], by rw [across, List.append_nil, List.append_nil]⟩
    | cons first others =>
      rw [across, List.getLast?_append_cons] at ends
      rw [behind] at absent
      exact absurd (List.mem_append_left _ (List.mem_of_getLast? ends)) absent

/-- **Stripping does not reach behind a border the pattern's last item does not occur behind.** -/
theorem trimStart_append [DecidableEq α] {pattern front back : List α} {last : α}
    (ends : pattern.getLast? = some last) (absent : last ∉ back) :
    trimStart pattern (front ++ back) = trimStart pattern front ++ back := by
  have nonempty : pattern ≠ [] := by
    rintro rfl
    cases ends
  induction size : front.length using Nat.strong_induction_on generalizing front with
  | _ size ih =>
    subst size
    rw [trimStart, trimStart.eq_def pattern front]
    simp only [begins_append_iff ends absent]
    split
    · next begins =>
        have within := begins.2.length_le
        have progress := List.length_pos_iff.mpr nonempty
        rw [List.drop_append_of_le_length within]
        exact ih _ (by rw [List.length_drop]; omega) rfl
    · rfl

def trimMatches (kind : α → Bool) (text : List α) : List α := (text.dropWhile kind).rdropWhile kind

theorem trimMatches_of_none {kind : α → Bool} {text : List α}
    (none_ : ∀ item ∈ text, kind item = false) : trimMatches kind text = text := by
  have front : text.dropWhile kind = text := by
    cases text with
    | nil => rfl
    | cons first rest => rw [List.dropWhile_cons_of_neg (by simp [none_ first List.mem_cons_self])]
  rw [trimMatches, front, List.rdropWhile_eq_self_iff]
  intro nonempty
  simp [none_ _ (List.getLast_mem nonempty)]

end Barista.Foundation
