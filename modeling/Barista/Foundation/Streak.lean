import Mathlib.Data.List.DropRight
import Mathlib.Data.List.ReduceOption
import Mathlib.Data.Nat.ModEq

/-!
Contract: how often in a row something was observed, and a counter that starts over at a threshold.

An observation may come to nothing, and then neither adds to a streak nor ends it.

Owns: streaks, the counter, and that the counter is the streak up to multiples of the threshold. Does not
own: what is observed.
-/

namespace Barista.Foundation

/-- How many of the last observations in a row were made, those that came to nothing aside. -/
def streak (history : List (Option Bool)) : Nat := (history.reduceOption.rtakeWhile id).length

@[simp] theorem streak_nil : streak [] = 0 := rfl

@[simp] theorem streak_snoc_none (history : List (Option Bool)) :
    streak (history ++ [none]) = streak history := by
  simp [streak, List.reduceOption_append]

@[simp] theorem streak_snoc_true (history : List (Option Bool)) :
    streak (history ++ [some true]) = streak history + 1 := by
  simp [streak, List.reduceOption_append, List.rtakeWhile_concat_pos]

@[simp] theorem streak_snoc_false (history : List (Option Bool)) :
    streak (history ++ [some false]) = 0 := by
  simp [streak, List.reduceOption_append, List.rtakeWhile_concat_neg]

/-- Count an observation, starting over at the threshold. -/
def debounce (threshold count : Nat) : Option Bool → Nat
  | none => count
  | some false => 0
  | some true => if count + 1 < threshold then count + 1 else 0

variable {threshold : Nat} {history : List (Option Bool)}

theorem debounce_streak (positive : 0 < threshold) (observed : Option Bool) :
    debounce threshold (streak history % threshold) observed = streak
      (history ++ [observed]) % threshold := by
  match observed with
  | none => simp [debounce]
  | some false => simp [debounce]
  | some true =>
    have below : streak history % threshold < threshold := Nat.mod_lt _ positive
    rw [streak_snoc_true, debounce, Nat.add_mod_eq_ite]
    by_cases one : threshold = 1
    · subst one
      simp [Nat.mod_one]
    · have unit : 1 % threshold = 1 := Nat.mod_eq_of_lt (by omega)
      rw [unit]
      split <;> split <;> omega

theorem threshold_le_iff (positive : 0 < threshold) :
    threshold ≤ streak history % threshold + 1 ↔ threshold ∣ streak (history ++ [some true]) := by
  have below : streak history % threshold < threshold := Nat.mod_lt _ positive
  rw [Nat.dvd_iff_mod_eq_zero, ← debounce_streak positive, debounce]
  split <;> omega

end Barista.Foundation
