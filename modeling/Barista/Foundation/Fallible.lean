import Barista.Foundation.History

/-!
Contract: programs that stop at their first error.

`attempt` goes on with the value of a program or stops with its error; `each` does so over a list.
`Yields P G history program` says of a program that comes after `history` that each of its actions
satisfies `P` of everything exchanged up to there, and that what it returns without error satisfies
`G` of everything exchanged in the end.

Owns: the two combinators and the rules of the judgement.
-/

namespace Barista.Foundation

variable {S : Signature} {α β ε δ : Type}

namespace Prog

/-- Go on with the value of a program, or stop with its error. -/
def attempt (program : Prog S (Except ε α)) (rest : α → Prog S (Except ε β)) :
    Prog S (Except ε β) :=
  program.bind fun result => match result with
    | .ok value => rest value
    | .error cause => .pure (.error cause)

def mapError (f : ε → δ) (program : Prog S (Except ε α)) : Prog S (Except δ α) :=
  program.bind fun result => .pure (result.mapError f)

/-- Do the same for each item, and return as many results. -/
def each (work : α → Prog S (Except ε β)) :
    (items : List α) → Prog S (Except ε { results : List β // results.length = items.length })
  | [] => .pure (.ok ⟨[], rfl⟩)
  | item :: rest =>
    attempt (work item) fun result =>
    attempt (each work rest) fun results =>
    .pure (.ok ⟨result :: results.val, by simp [results.property]⟩)

/-- Each action is permitted after what was exchanged before, and a value returned is good after
everything. -/
def Yields (P : List (Exchange S) → S.Act → Prop) (G : List (Exchange S) → α → Prop)
    (history : List (Exchange S)) (program : Prog S (Except ε α)) : Prop :=
  Heeds (fun _ => True) P
    (fun later result => history <+: later ∧ ∀ value, result = .ok value → G later value)
    history program

namespace Yields

variable {P : List (Exchange S) → S.Act → Prop} {G : List (Exchange S) → α → Prop}
  {R : List (Exchange S) → β → Prop} {history : List (Exchange S)}

theorem ok {value : α} (good : G history value) :
    Yields P G history (.pure (.ok value) : Prog S (Except ε α)) :=
  ⟨List.prefix_rfl, by rintro _ ⟨⟩; exact good⟩

theorem error {cause : ε} : Yields P G history (.pure (.error cause) : Prog S (Except ε α)) :=
  ⟨List.prefix_rfl, by rintro _ ⟨⟩⟩

theorem step {act : S.Act} {next : S.Ans act → Prog S (Except ε α)} (permitted : P history act)
    (rest : ∀ answer, Yields P G (history ++ [⟨act, answer⟩]) (next answer)) :
    Yields P G history (.step act next) := by
  refine ⟨permitted, fun answer _ => Heeds.mono (rest answer) (fun _ _ => id) ?_⟩
  rintro later value ⟨grown, good⟩
  exact ⟨(List.prefix_append _ _).trans grown, good⟩

variable {program : Prog S (Except ε α)}

theorem attempt {rest : α → Prog S (Except ε β)} (first : Yields P G history program)
    (second : ∀ later value, history <+: later → G later value → Yields P R later (rest value)) :
    Yields P R history (program.attempt rest) := by
  refine Heeds.bind first fun later result ⟨grown, good⟩ => ?_
  cases result with
  | error cause => exact ⟨grown, by rintro _ ⟨⟩⟩
  | ok value =>
    refine Heeds.mono (second later value grown (good value rfl)) (fun _ _ => id) ?_
    rintro last result ⟨further, returned⟩
    exact ⟨grown.trans further, returned⟩

theorem anyway {rest : Except ε α → Prog S (Except δ β)} (first : Yields P G history program)
    (second : ∀ later result, history <+: later → Yields P R later (rest result)) :
    Yields P R history (program.bind rest) := by
  refine Heeds.bind first fun later result ⟨grown, _⟩ => ?_
  refine Heeds.mono (second later result grown) (fun _ _ => id) ?_
  rintro last value ⟨further, returned⟩
  exact ⟨grown.trans further, returned⟩

theorem mapError {f : ε → δ} (yields : Yields P G history program) :
    Yields P G history (program.mapError f) := by
  refine Heeds.bind yields fun later result ⟨grown, good⟩ => ?_
  cases result with
  | error cause => exact ⟨grown, by rintro _ ⟨⟩⟩
  | ok value => exact ⟨grown, by rintro _ ⟨⟩; exact good value rfl⟩

theorem mono {G' : List (Exchange S) → α → Prop} (yields : Yields P G history program)
    (weaker : ∀ later value, history <+: later → G later value → G' later value) :
    Yields P G' history program :=
  Heeds.mono yields (fun _ _ => id) fun later _ ⟨grown, good⟩ =>
    ⟨grown, fun value returned => weaker later value grown (good value returned)⟩

theorem each {work : α → Prog S (Except ε β)} {G : α → List (Exchange S) → β → Prop}
    (stable : ∀ {item later last result}, later <+: last → G item later result → G item last result)
    {items : List α} (works : ∀ item ∈ items, ∀ later, history <+: later →
      Yields P (G item) later (work item)) :
    Yields P (fun last results => (∀ item ∈ items, ∃ result ∈ results.val, G item last result) ∧
        ∀ result ∈ results.val, ∃ item ∈ items, G item last result) history (each work items) := by
  induction items generalizing history with
  | nil => exact ok (by simp)
  | cons item rest ih =>
    obtain ⟨first, others⟩ := List.forall_mem_cons.mp works
    refine attempt (first history List.prefix_rfl) fun later result grown good => ?_
    refine attempt (ih fun other member last further =>
      others other member last (grown.trans further)) fun last results further ⟨all, only⟩ => ?_
    refine ok ⟨List.forall_mem_cons.mpr ⟨⟨result, by simp, stable further good⟩, ?_⟩,
      List.forall_mem_cons.mpr ⟨⟨item, by simp, stable further good⟩, ?_⟩⟩
    · intro other member
      obtain ⟨found, foundMember, foundGood⟩ := all other member
      exact ⟨found, List.mem_cons_of_mem _ foundMember, foundGood⟩
    · intro other member
      obtain ⟨source, sourceMember, sourceGood⟩ := only other member
      exact ⟨source, List.mem_cons_of_mem _ sourceMember, sourceGood⟩

end Yields

end Prog

end Barista.Foundation
