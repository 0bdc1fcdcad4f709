import Mathlib.Control.Monad.Basic

/-!
Contract: asynchronous code as trees of atomic actions.

A `Prog` is what one task still has to do: it has returned, or it performs one
atomic action and goes on with that action's answer. Between two actions any
other task may run, so a `Prog` fixes exactly the points at which an `await`,
a lock or a database call lets others in.

Owns: signatures, programs, their monad, translation of one signature into
another, and the set of actions a program can perform. Does not own: what an
action does to a state, which is a `Machine`'s business.
-/

namespace Barista.Foundation

/-- The atomic actions of a layer, and the type of each action's answer. -/
structure Signature where
  Act : Type
  Ans : Act → Type

inductive Prog (S : Signature) (α : Type) where
  | pure (value : α)
  | step (act : S.Act) (next : S.Ans act → Prog S α)

namespace Prog

variable {S T : Signature} {α β γ : Type}

def bind : Prog S α → (α → Prog S β) → Prog S β
  | pure value, rest => rest value
  | step act next, rest => step act fun answer => (next answer).bind rest

instance : Monad (Prog S) where
  pure := Prog.pure
  bind := Prog.bind

def perform (act : S.Act) : Prog S (S.Ans act) :=
  step act pure

@[simp] theorem pure_eq (value : α) : (Pure.pure value : Prog S α) = .pure value := rfl

@[simp] theorem bind_eq (program : Prog S α) (rest : α → Prog S β) :
    (program >>= rest) = program.bind rest := rfl

@[simp] theorem pure_bind (value : α) (rest : α → Prog S β) :
    (Prog.pure value : Prog S α).bind rest = rest value := rfl

@[simp] theorem step_bind (act : S.Act) (next : S.Ans act → Prog S α) (rest : α → Prog S β) :
    (step act next).bind rest = step act fun answer => (next answer).bind rest := rfl

@[simp] theorem perform_bind (act : S.Act) (rest : S.Ans act → Prog S β) :
    (perform act).bind rest = step act rest := rfl

@[simp] theorem bind_assoc (program : Prog S α) (middle : α → Prog S β) (last : β → Prog S γ) :
    (program.bind middle).bind last = program.bind fun value => (middle value).bind last := by
  induction program with
  | pure value => rfl
  | step act next ih =>
    simp only [step_bind, ih]

/-- Replace every action by a program over another signature. -/
def hoist (translate : (act : S.Act) → Prog T (S.Ans act)) : Prog S α → Prog T α
  | pure value => pure value
  | step act next => (translate act).bind fun answer => (next answer).hoist translate

/-- Every action the program can still perform, whatever answers it gets, satisfies `P`. -/
def Emits (P : S.Act → Prop) : Prog S α → Prop
  | pure _ => True
  | step act next => P act ∧ ∀ answer, (next answer).Emits P

section Emits

variable {P Q : S.Act → Prop}

@[simp] theorem emits_pure (value : α) : (Prog.pure value : Prog S α).Emits P := trivial

@[simp] theorem emits_step (act : S.Act) (next : S.Ans act → Prog S α) :
    (step act next).Emits P ↔ P act ∧ ∀ answer, (next answer).Emits P := Iff.rfl

theorem Emits.mono (weaker : ∀ act, P act → Q act) {program : Prog S α}
    (emits : program.Emits P) : program.Emits Q := by
  induction program with
  | pure value => trivial
  | step act next ih =>
    exact ⟨weaker act emits.1, fun answer => ih answer (emits.2 answer)⟩

theorem Emits.bind {program : Prog S α} {rest : α → Prog S β}
    (first : program.Emits P) (second : ∀ value, (rest value).Emits P) :
    (program.bind rest).Emits P := by
  induction program with
  | pure value => exact second value
  | step act next ih =>
    exact ⟨first.1, fun answer => ih answer (first.2 answer)⟩

theorem Emits.hoist {R : T.Act → Prop} {translate : (act : S.Act) → Prog T (S.Ans act)}
    (translated : ∀ act, P act → (translate act).Emits R) {program : Prog S α}
    (emits : program.Emits P) : (program.hoist translate).Emits R := by
  induction program with
  | pure value => trivial
  | step act next ih =>
    exact Emits.bind (translated act emits.1) fun answer =>
      ih answer (emits.2 answer)

end Emits

end Prog

/-- What each action does: given the acting task, the action and the environment's
choice, the answer and the next state. `none` means the action is not enabled. -/
structure Machine (S : Signature) (World Choice : Type) where
  exec : Nat → (act : S.Act) → Choice → World → Option (S.Ans act × World)

end Barista.Foundation
