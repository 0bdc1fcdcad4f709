import Barista.Foundation.Program

/-!
Contract: database transactions, statement by statement.

A transaction's body is a program of statements over a working copy. Any statement may
fail, for a reason of its own or because of a fault of the engine; what is durable changes
at a commit that succeeds and nowhere else, and a body that returns without one drops its
working copy.

Owns: connections, bodies, what a body returns and leaves behind under any pattern of
faults, the equations of a body without faults, and the all-or-nothing rule that reduces
the one to the other.
-/

namespace Barista.Foundation

variable {Statement D α β : Type} {Answer : Statement → Type}

inductive TxAct (Statement : Type) where
  | exec (statement : Statement)
  | commit
  | rollback

abbrev TxSig (Answer : Statement → Type) : Signature where
  Act := TxAct Statement
  Ans
    | .exec statement => Except String (Answer statement)
    | .commit | .rollback => Except String Unit

/-- What is durable, and the copy an open transaction works on. -/
structure Connection (D : Type) where
  committed : D
  working : D

/-- What the engine makes of a database, for each statement. -/
abbrev Effect (Answer : Statement → Type) (D : Type) :=
  (statement : Statement) → D → Except String (Answer statement × D)

namespace Connection

def perform (effect : Effect Answer D) (fault : Option String) (connection : Connection D) :
    (act : TxAct Statement) → (TxSig Answer).Ans act × Connection D
  | .exec statement =>
    match fault, effect statement connection.working with
    | some cause, _ => (.error cause, connection)
    | none, .error cause => (.error cause, connection)
    | none, .ok (answer, working) => (.ok answer, { connection with working := working })
  | .commit =>
    match fault with
    | some cause => (.error cause, connection)
    | none => (.ok (), { connection with committed := connection.working })
  | .rollback =>
    match fault with
    | some cause => (.error cause, connection)
    | none => (.ok (), { connection with working := connection.committed })

end Connection

abbrev Transaction (Answer : Statement → Type) (α : Type) := Prog (TxSig Answer) (Except String α)

namespace Transaction

/-- What a body returns and what is durable afterwards, where `faults` says which of its
statements the engine fails. -/
def outcome (effect : Effect Answer D) (faults : Nat → Option String) :
    Prog (TxSig Answer) α → Nat → Connection D → α × D
  | .pure value, _, connection => (value, connection.committed)
  | .step act next, position, connection =>
    let result := connection.perform effect (faults position) act
    outcome effect faults (next result.1) (position + 1) result.2

def run (effect : Effect Answer D) (faults : Nat → Option String)
    (body : Transaction Answer α) (database : D) : Except String α × D :=
  outcome effect faults body 0 ⟨database, database⟩

def attempt (statement : Statement) (rest : Answer statement → Transaction Answer α) :
    Transaction Answer α :=
  .step (S := TxSig Answer) (.exec statement) fun
    | .ok answer => rest answer
    | .error cause => .pure (.error cause)

def committing (value : α) : Transaction Answer α :=
  .step (S := TxSig Answer) .commit fun
    | .ok () => .pure (.ok value)
    | .error cause => .pure (.error cause)

def rollingBack (result : Except String α) : Transaction Answer α :=
  .step (S := TxSig Answer) .rollback fun
    | .ok () => .pure result
    | .error cause => .pure (.error cause)

/-! ### Without faults -/

section Calm

variable {effect : Effect Answer D} {connection : Connection D} {position : Nat}

/-- What a body returns and leaves behind when the engine never fails. -/
abbrev calm (effect : Effect Answer D) (body : Prog (TxSig Answer) α)
    (connection : Connection D) : α × D :=
  outcome effect (fun _ => none) body 0 connection

theorem outcome_calm (body : Prog (TxSig Answer) α) :
    outcome effect (fun _ => none) body position connection = calm effect body connection := by
  induction body generalizing position connection with
  | pure value => rfl
  | step act next ih =>
    simp only [calm, outcome]
    rw [ih, ih]

theorem calm_attempt (statement : Statement) (rest : Answer statement → Transaction Answer α) :
    calm effect (attempt statement rest) connection =
      match effect statement connection.working with
      | .ok (answer, working) => calm effect (rest answer) { connection with working := working }
      | .error cause => (.error cause, connection.committed) := by
  rw [calm, attempt, outcome]
  cases executed : effect statement connection.working with
  | ok result =>
    simp only [Connection.perform, executed]
    exact outcome_calm _
  | error cause =>
    simp only [Connection.perform, executed]
    rfl

end Calm

/-! ### Under faults -/

/-- A body whose every failure ends it, and that commits last if it commits at all. -/
inductive Strict : Transaction Answer α → Prop
  | attempt {statement : Statement} {rest : Answer statement → Transaction Answer α} :
      (∀ answer, Strict (rest answer)) → Strict (attempt statement rest)
  | failing (cause : String) : Strict (.pure (.error cause))
  | committing (value : α) : Strict (committing value)
  | rollingBack (result : Except String α) : Strict (rollingBack result)

/-- **All or nothing.** Whatever the engine fails, a strict body ends as it does without
faults, or returns an error and leaves the database as it was. -/
theorem Strict.outcome {effect : Effect Answer D} {body : Transaction Answer α}
    (strict : Strict body) (faults : Nat → Option String) (position : Nat)
    (connection : Connection D) :
    outcome effect faults body position connection = calm effect body connection ∨
      ∃ cause, outcome effect faults body position connection =
        (.error cause, connection.committed) := by
  induction strict generalizing position connection with
  | @attempt statement rest _ ih =>
    rw [Transaction.attempt, Transaction.outcome]
    cases faulted : faults position with
    | some cause => exact .inr ⟨cause, rfl⟩
    | none =>
      cases executed : effect statement connection.working with
      | error cause =>
        refine .inr ⟨cause, ?_⟩
        simp only [Connection.perform, executed]
        rfl
      | ok result =>
        rw [← Transaction.attempt, calm_attempt, executed]
        simp only [Connection.perform, executed]
        exact ih result.1 (position + 1) _
  | failing cause => exact .inl rfl
  | committing value =>
    rw [Transaction.committing, Transaction.outcome]
    cases faulted : faults position with
    | some cause => exact .inr ⟨cause, rfl⟩
    | none => exact .inl rfl
  | rollingBack result =>
    rw [Transaction.rollingBack, Transaction.outcome]
    cases faulted : faults position with
    | some cause => exact .inr ⟨cause, rfl⟩
    | none => exact .inl rfl

end Transaction

end Barista.Foundation
