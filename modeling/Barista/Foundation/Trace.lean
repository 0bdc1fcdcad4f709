import Barista.Foundation.Interleaving
import Barista.Foundation.Run

/-!
Contract: what a program said and heard, and what is left of it.

An `Exchange` is an action with its answer. `After program trace residual` says that a
program which made the exchanges of `trace` has `residual` still to do; it has returned
when the residual is a value. A fact about every trace of a program holds whatever the
answers were, so it holds in every interleaving.

Owns: traces, their composition along `bind`, actions performed at most once, programs assembled
from pieces, the tasks of a pool as residuals of their traces, and the obligations of such programs.
-/

namespace Barista.Foundation

variable {S : Signature} {α β γ : Type}

structure Exchange (S : Signature) where
  act : S.Act
  answer : S.Ans act

namespace Prog

/-- A program that made these exchanges has this left to do. -/
inductive After : Prog S α → List (Exchange S) → Prog S α → Prop
  | refl (program : Prog S α) : After program [] program
  | step {act : S.Act} {next : S.Ans act → Prog S α} {answer : S.Ans act}
      {rest : List (Exchange S)} {residual : Prog S α} :
      After (next answer) rest residual → After (.step act next) (⟨act, answer⟩ :: rest) residual

abbrev Ran (program : Prog S α) (trace : List (Exchange S)) (value : α) : Prop :=
  After program trace (.pure value)

theorem After.trans {first middle last : Prog S α} {early late : List (Exchange S)}
    (reached : After first early middle) (continued : After middle late last) :
    After first (early ++ late) last := by
  induction reached with
  | refl program => exact continued
  | step _ ih => exact .step (ih continued)

variable {act : S.Act} {next : S.Ans act → Prog S α} {program : Prog S α}
  {trace : List (Exchange S)}

theorem After.snoc (reached : After program trace (.step act next)) (answer : S.Ans act) :
    After program (trace ++ [⟨act, answer⟩]) (next answer) :=
  reached.trans (.step (.refl _))

variable {value : α}

theorem ran_pure {result : α} (ran : Ran (.pure value : Prog S α) trace result) :
    trace = [] ∧ result = value := by
  cases ran
  exact ⟨rfl, rfl⟩

theorem ran_step {result : α} (ran : Ran (.step act next) trace result) :
    ∃ answer rest, trace = ⟨act, answer⟩ :: rest ∧ Ran (next answer) rest result := by
  cases ran with
  | step continued => exact ⟨_, _, rfl, continued⟩

/-- What a program says and hears, and returns, where each action has its answer. -/
def played (answers : ∀ act, S.Ans act) : Prog S α → List (Exchange S) × α
  | .pure value => ([], value)
  | .step act next =>
    let rest := (next (answers act)).played answers
    (⟨act, answers act⟩ :: rest.1, rest.2)

theorem ran_played (answers : ∀ act, S.Ans act) (program : Prog S α) :
    Ran program (program.played answers).1 (program.played answers).2 := by
  induction program with
  | pure value => exact .refl _
  | step act next ih => exact .step (ih _)

theorem mem_played {answers : ∀ act, S.Ans act} {exchange : Exchange S}
    (member : exchange ∈ (program.played answers).1) : exchange.answer = answers exchange.act := by
  induction program with
  | pure value => cases member
  | step act next ih =>
    rcases List.mem_cons.mp member with rfl | later
    · rfl
    · exact ih _ later

/-- A program that has a machine to itself, where the environment chooses by the action: what it
says and hears, what it returns, and the state it leaves. -/
def solo {World Choice : Type} (machine : Machine S World Choice) (index : Nat)
    (choice : S.Act → Choice) : Prog S α → World → Option (List (Exchange S) × α × World)
  | .pure value, world => some ([], value, world)
  | .step act next, world =>
    (machine.exec index act (choice act) world).bind fun result =>
      ((next result.1).solo machine index choice result.2).map fun rest =>
        (⟨act, result.1⟩ :: rest.1, rest.2)

theorem solo_step {World Choice : Type} {machine : Machine S World Choice} {index : Nat}
    {choice : S.Act → Choice} {world last : World}
    (alone : (Prog.step act next).solo machine index choice world = some (trace, value, last)) :
    ∃ answer middle rest, machine.exec index act (choice act) world = some (answer, middle) ∧
      trace = ⟨act, answer⟩ :: rest ∧
      (next answer).solo machine index choice middle = some (rest, value, last) := by
  obtain ⟨⟨answer, middle⟩, executed, continued⟩ := Option.bind_eq_some_iff.mp alone
  obtain ⟨⟨rest, outcome⟩, remaining, same⟩ := Option.map_eq_some_iff.mp continued
  cases same
  exact ⟨answer, middle, rest, executed, rfl, remaining⟩

theorem ran_solo {World Choice : Type} {machine : Machine S World Choice} {index : Nat}
    {choice : S.Act → Choice} {world last : World}
    (alone : program.solo machine index choice world = some (trace, value, last)) :
    Ran program trace value := by
  induction program generalizing world trace with
  | pure result =>
    cases alone
    exact .refl _
  | step act next ih =>
    obtain ⟨answer, middle, rest, -, rfl, remaining⟩ := solo_step alone
    exact .step (ih answer remaining)

variable {rest : α → Prog S β}

/-- A residual of a composition is a residual of its first half, or of its second half after
the first has returned. -/
theorem after_bind {residual : Prog S β} (reached : After (program.bind rest) trace residual) :
    (∃ middle, After program trace middle ∧ residual = middle.bind rest) ∨
      ∃ first value second, trace = first ++ second ∧ Ran program first value ∧
        After (rest value) second residual := by
  induction program generalizing trace with
  | pure value => exact .inr ⟨[], value, trace, rfl, .refl _, reached⟩
  | step act next ih =>
    cases reached with
    | refl => exact .inl ⟨_, .refl _, rfl⟩
    | step continued =>
      rcases ih _ continued with
        ⟨middle, inFirst, rfl⟩ | ⟨first, value, second, rfl, ran, inSecond⟩
      · exact .inl ⟨middle, .step inFirst, rfl⟩
      · exact .inr ⟨_ :: first, value, second, rfl, .step ran, inSecond⟩

theorem ran_bind {result : β} (ran : Ran (program.bind rest) trace result) :
    ∃ first value second, trace = first ++ second ∧ Ran program first value ∧
      Ran (rest value) second result := by
  rcases after_bind ran with ⟨middle, inFirst, same⟩ | split
  · cases middle with
    | pure value =>
      refine ⟨trace, value, [], by simp, inFirst, ?_⟩
      rw [show rest value = .pure result from same.symm]
      exact .refl _
    | step act next => cases same
  · exact split

theorem after_bind_step {next : S.Ans act → Prog S β}
    (reached : After (program.bind rest) trace (.step act next)) :
    (∃ inner, After program trace (.step act inner)) ∨
      ∃ first value second, trace = first ++ second ∧ Ran program first value ∧
        After (rest value) second (.step act next) := by
  rcases after_bind reached with ⟨middle, inFirst, same⟩ | split
  · cases middle with
    | pure value => exact .inr ⟨trace, value, [], by simp, inFirst, same ▸ .refl _⟩
    | step other inner =>
      cases same
      exact .inl ⟨inner, inFirst⟩
  · exact .inr split

theorem Emits.after {P : S.Act → Prop} {residual : Prog S α} (emits : program.Emits P)
    (reached : After program trace residual) : (∀ exchange ∈ trace, P exchange.act) ∧
    residual.Emits P := by
  induction reached with
  | refl program => exact ⟨by simp, emits⟩
  | step _ ih =>
    obtain ⟨performed, remaining⟩ := ih (emits.2 _)
    exact ⟨List.forall_mem_cons.mpr ⟨emits.1, performed⟩, remaining⟩

theorem emits_of_after {P : S.Act → Prop}
    (performed : ∀ {trace act next}, After program trace (.step act next) → P act) :
    program.Emits P := by
  induction program with
  | pure value => trivial
  | step act next ih =>
    exact ⟨performed (.refl _), fun answer =>
      ih answer fun reached => performed (.step reached)⟩

/-! ### Actions performed at most once -/

/-- Along every trace, the program performs at most one action of a kind. -/
def Once (A : S.Act → Prop) : Prog S α → Prop
  | .pure _ => True
  | .step act next =>
    (∀ answer, (next answer).Once A) ∧ (A act → ∀ answer, (next answer).Emits fun act => ¬ A act)

variable {A : S.Act → Prop}

theorem Once.of_emits (never : program.Emits fun act => ¬ A act) : program.Once A := by
  induction program with
  | pure value => trivial
  | step act next ih =>
    exact ⟨fun answer => ih answer (never.2 answer), fun isIt =>
      absurd isIt never.1⟩

theorem Once.before (never : program.Emits fun act => ¬ A act)
    (once : ∀ value, (rest value).Once A) : (program.bind rest).Once A := by
  induction program with
  | pure value => exact once value
  | step act next ih =>
    exact ⟨fun answer => ih answer (never.2 answer), fun isIt =>
      absurd isIt never.1⟩

theorem Once.finally (once : program.Once A)
    (never : ∀ value, (rest value).Emits fun act => ¬ A act) : (program.bind rest).Once A := by
  induction program with
  | pure value => exact .of_emits (never value)
  | step act next ih =>
    exact ⟨fun answer => ih answer (once.1 answer), fun isIt answer =>
      Emits.bind (once.2 isIt answer) never⟩

theorem Once.after (once : program.Once A) (reached : After program trace (.step act next))
    (isIt : A act) : ∀ exchange ∈ trace, ¬ A exchange.act := by
  generalize same : Prog.step act next = residual at reached
  induction reached with
  | refl program => simp
  | @step first later answer rest residual continued ih =>
    subst same
    have notFirst : ¬ A first := fun earlier =>
      ((once.2 earlier answer).after continued).2.1 isIt
    exact List.forall_mem_cons.mpr ⟨notFirst, ih (once.1 answer) rfl⟩

/-! ### Programs assembled from pieces -/

/-- A program built from pieces by sequencing alone. Each piece promises something of the value
it returns, and what follows it may use that. -/
inductive Assembled (Piece : {β : Type} → Prog S β → (β → Prop) → Prop) :
    {α : Type} → Prog S α → (α → Prop) → Prop
  | pure {α : Type} {value : α} {Q : α → Prop} :
      Q value → Assembled Piece (.pure value : Prog S α) Q
  | piece {α : Type} {program : Prog S α} {Q : α → Prop} :
      Piece program Q → Assembled Piece program Q
  | bind {α β : Type} {program : Prog S α} {rest : α → Prog S β} {Q : α → Prop} {R : β → Prop} :
      Assembled Piece program Q → (∀ value, Q value → Assembled Piece (rest value) R) →
      Assembled Piece (program.bind rest) R

namespace Assembled

variable {Piece : {β : Type} → Prog S β → (β → Prop) → Prop} {Q : α → Prop}

theorem seq {program : Prog S α} {rest : α → Prog S β} {R : β → Prop}
    (first : Assembled Piece program Q) (second : ∀ value, Assembled Piece (rest value) R) :
    Assembled Piece (program.bind rest) R :=
  .bind first fun value _ => second value

end Assembled

end Prog

/-- What is in one of the histories after one of them has grown was there before, or is the last of
the one that has grown. -/
theorem mem_grown {traces : Nat → List (Exchange S)} {last exchange : Exchange S}
    {index other : Nat}
    (member : exchange ∈ Function.update traces index (traces index ++ [last]) other) :
    exchange ∈ traces other ∨ (other = index ∧ exchange = last) := by
  by_cases same : other = index
  · subst same
    rw [Function.update_self, List.mem_append, List.mem_singleton] at member
    exact member.imp_right fun now => ⟨rfl, now⟩
  · rw [Function.update_of_ne same] at member
    exact .inl member

namespace Pool

open Prog (After)

variable {Role World Choice : Type} {machine : Machine S World Choice} {prog : Role → Prog S α}
  {pool next : Pool S Role α World} {traces : Nat → List (Exchange S)} {index : Nat}

/-- Every task that has not ended is where its exchanges have left the program of its role. -/
structure Resides (prog : Role → Prog S α) (pool : Pool S Role α World)
    (traces : Nat → List (Exchange S)) : Prop where
  residual : ∀ {index role act continuation}, pool.tasks[index]? = some
    ⟨role, .step act continuation⟩ →
      After (prog role) (traces index) (.step act continuation)
  fresh : ∀ {index}, pool.tasks.length ≤ index → traces index = []

theorem Resides.step (resides : pool.Resides prog traces) {role : Role} {act : S.Act}
    {continuation : S.Ans act → Prog S α} {answer : S.Ans act} {world : World}
    (found : pool.tasks[index]? = some ⟨role, .step act continuation⟩) :
    Resides prog ⟨world, pool.tasks.set index ⟨role, continuation answer⟩⟩
      (Function.update traces index (traces index ++ [⟨act, answer⟩])) := by
  constructor
  · intro other part later rest located
    rcases located_set found located with ⟨rfl, written⟩ | ⟨same, located⟩
    · obtain ⟨rfl, goesOn⟩ := Task.mk.inj written
      rw [Function.update_self, goesOn]
      exact (resides.residual found).snoc answer
    · rw [Function.update_of_ne same]
      exact resides.residual located
  · intro other past
    rw [List.length_set] at past
    have bound := (List.getElem?_eq_some_iff.mp found).1
    rw [Function.update_of_ne (by omega)]
    exact resides.fresh past

theorem Resides.spawn (resides : pool.Resides prog traces) (role : Role) (world : World) :
    Resides prog (Pool.spawn ⟨world, pool.tasks⟩ ⟨role, prog role⟩) traces := by
  constructor
  · intro other part act rest located
    rcases located_append located with located | ⟨last, started⟩
    · exact resides.residual located
    · obtain ⟨rfl, begins⟩ := Task.mk.inj started
      rw [resides.fresh (Nat.le_of_eq last.symm), begins]
      exact .refl _
  · intro other past
    simp only [Pool.spawn, List.length_append, List.length_singleton] at past
    exact resides.fresh (by omega)

theorem Resides.survive (resides : pool.Resides prog traces) (world : World)
    {survive : Task S Role α → Task S Role α}
    (survives : ∀ task, survive task = task ∨ ∃ value, (survive task).prog = .pure value) :
    Resides prog ⟨world, pool.tasks.map survive⟩ traces := by
  constructor
  · intro other part act rest located
    obtain ⟨old, found, same⟩ := Option.map_eq_some_iff.mp (List.getElem?_map .. ▸ located)
    rcases survives old with kept | ⟨value, ended⟩
    · rw [kept] at same
      exact resides.residual (same ▸ found)
    · rw [same] at ended
      cases ended
  · intro other past
    rw [List.length_map] at past
    exact resides.fresh past

end Pool

namespace Discipline

variable {World Choice Role ω : Type} {machine : Machine S World Choice}
  {D : Discipline machine Role ω} {index : Nat} {role : Role} {A : World → Prop}

/-- An assertion about the shared state that the other tasks cannot break. -/
def Stable (D : Discipline machine Role ω) (index : Nat) (role : Role) (A : World → Prop) : Prop :=
  ∀ ⦃world later⦄, D.Rely index role world later → D.Inv later → A world → A later

variable {world : World}

theorem wp_step (stable : D.Stable index role A) {act : S.Act} {next : S.Ans act → Prog S β}
    {Q : β → World → Prop} (holds : A world)
    (stepped : ∀ current choice answer after, A current → D.Inv current →
      machine.exec index act choice current = some (answer, after) →
      D.Assume index role act answer current after → D.Inv after ∧
      D.Guar index role act answer current after ∧
        D.wp index role (next answer) Q after) : D.wp index role (.step act next) Q world :=
  fun current relied invariant choice answer after executed assumed =>
    stepped current choice answer after (stable relied invariant holds) invariant executed assumed

theorem wp_value (stable : D.Stable index role A) {value : β} {Q : β → World → Prop}
    (holds : A world) (post : ∀ current, A current → Q value current) :
    D.wp index role (.pure value) Q world :=
  fun current relied invariant => post current (stable relied invariant holds)

variable {program : Prog S α}

theorem wp_assembled {Piece : {β : Type} → Prog S β → (β → Prop) → Prop}
    (stable : D.Stable index role A)
    (pieces : ∀ {β : Type} {program : Prog S β} {Q : β → Prop}, Piece program Q →
      ∀ world, A world → D.wp index role program (fun value after => Q value ∧ A after) world)
    {Q : α → Prop} (assembled : Prog.Assembled Piece program Q) (holds : A world) :
    D.wp index role program (fun value after => Q value ∧ A after) world := by
  induction assembled generalizing world with
  | pure promised => exact wp_value stable holds fun current kept => ⟨promised, kept⟩
  | piece isPiece => exact pieces isPiece world holds
  | bind _ _ first rest =>
    refine wp_bind (wp_mono ?_ (first holds))
    rintro value current - ⟨promised, kept⟩
    exact rest value promised kept

theorem wp_ran {Q : α → World → Prop} {R : α → Prop} (obligation : D.wp index role program Q world)
    (returned : ∀ trace value, Prog.Ran program trace value → R value) :
    D.wp index role program (fun value after => R value ∧ Q value after) world := by
  induction program generalizing world with
  | pure value =>
    intro current reached invariant
    exact ⟨returned [] value (.refl _), obligation current reached invariant⟩
  | step act next ih =>
    intro current reached invariant choice answer after executed assumed
    obtain ⟨kept, guaranteed, rest⟩ := obligation current reached invariant choice answer after
      executed assumed
    exact ⟨kept, guaranteed, ih answer rest fun trace value ran =>
      returned _ value (.step ran)⟩

theorem wp_emits {P : S.Act → Prop} (stable : D.Stable index role A)
    (acts : ∀ act, P act → ∀ current choice answer after, A current → D.Inv current →
      machine.exec index act choice current = some (answer, after) →
      D.Assume index role act answer current after →
      D.Inv after ∧ D.Guar index role act answer current after ∧ A after) (emits : program.Emits P)
    (holds : A world) : D.wp index role program (fun _ => A) world := by
  induction program generalizing world with
  | pure value => exact wp_value stable holds fun _ kept => kept
  | step act next ih =>
    refine wp_step stable holds
      fun current choice answer after kept invariant executed assumed => ?_
    obtain ⟨inv, guaranteed, still⟩ :=
      acts act emits.1 current choice answer after kept invariant executed assumed
    exact ⟨inv, guaranteed, ih answer (emits.2 answer) still⟩

end Discipline

end Barista.Foundation
