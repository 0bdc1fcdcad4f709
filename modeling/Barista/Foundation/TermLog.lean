import Mathlib.Data.List.Basic

/-!
Contract: histories numbered by terms, where each term has one holder.

A `TermLog` lists the records ever stored under one name, newest first, by term
and holder. The first record opens term 1; every later one either continues the
current term under its holder or opens the next term under anybody.

Owns: that shape and what follows from it (one holder a term, terms that never
decrease, terms without gaps).
-/

namespace Barista.Foundation

variable {Holder : Type}

inductive TermLog : List (Nat × Holder) → Prop
  | nil : TermLog []
  | first (holder : Holder) : TermLog [(1, holder)]
  | continued {term : Nat} {holder : Holder} {rest : List (Nat × Holder)} :
      TermLog ((term, holder) :: rest) → TermLog ((term, holder) :: (term, holder) :: rest)
  | advanced {term : Nat} {holder : Holder} {rest : List (Nat × Holder)} (taker : Holder) :
      TermLog ((term, holder) :: rest) →
        TermLog ((term + 1, taker) :: (term, holder) :: rest)

namespace TermLog

variable {log rest : List (Nat × Holder)} {head : Nat × Holder}

theorem head_bounds (history : TermLog (head :: rest)) :
    ∀ record ∈ head :: rest, record.1 ≤ head.1 ∧ (record.1 = head.1 → record.2 = head.2) := by
  generalize shape : head :: rest = log at history
  induction history generalizing head rest with
  | nil => cases shape
  | first holder =>
    cases shape
    simp
  | @continued term holder older _ ih =>
    cases shape
    intro record member
    rcases List.mem_cons.mp member with rfl | earlier
    · exact ⟨Nat.le_refl _, fun _ => rfl⟩
    · exact ih rfl record earlier
  | @advanced term holder older taker _ ih =>
    cases shape
    intro record member
    rcases List.mem_cons.mp member with rfl | earlier
    · exact ⟨Nat.le_refl _, fun _ => rfl⟩
    · have bounded := (ih rfl record earlier).1
      simp only at bounded ⊢
      omega

theorem tail (history : TermLog (head :: rest)) : TermLog rest := by
  cases history with
  | first holder => exact .nil
  | continued older => exact older
  | advanced taker older => exact older

/-- **One holder a term.** -/
theorem holder_unique (history : TermLog log) {left right : Nat × Holder}
    (leftMem : left ∈ log) (rightMem : right ∈ log) (sameTerm : left.1 = right.1) :
    left.2 = right.2 := by
  induction log with
  | nil => cases leftMem
  | cons head rest ih =>
    have bounds := history.head_bounds
    rcases List.mem_cons.mp leftMem with rfl | leftOlder
    · exact ((bounds right rightMem).2 sameTerm.symm).symm
    · rcases List.mem_cons.mp rightMem with rfl | rightOlder
      · exact (bounds left leftMem).2 sameTerm
      · exact ih history.tail leftOlder rightOlder

/-- **Terms never decrease.** -/
theorem head_mono {newer older : List (Nat × Holder)} {last : Nat × Holder}
    (history : TermLog (newer ++ last :: older)) {current : Nat × Holder}
    (newest : (newer ++ last :: older).head? = some current) : last.1 ≤ current.1 := by
  cases newer with
  | nil =>
    cases newest
    exact Nat.le_refl _
  | cons head middle =>
    cases newest
    exact (history.head_bounds last (by simp)).1

/-- **Terms leave no gap.** The terms of the history are exactly those from 1 to the newest. -/
theorem terms_gapless (history : TermLog (head :: rest)) (term : Nat) :
    (∃ record ∈ head :: rest, record.1 = term) ↔ 1 ≤ term ∧ term ≤ head.1 := by
  generalize shape : head :: rest = log at history
  induction history generalizing head rest with
  | nil => cases shape
  | first holder =>
    cases shape
    simp only [List.mem_singleton, exists_eq_left]
    omega
  | @continued current holder older _ ih =>
    cases shape
    rw [← ih rfl]
    simp
  | @advanced current holder older taker _ ih =>
    cases shape
    have earlier := ih rfl
    simp only [List.mem_cons, exists_eq_or_imp] at earlier ⊢
    rw [earlier]
    omega

end TermLog

end Barista.Foundation
