import Barista.Foundation.Trace

/-!
Contract: programs judged by what they have said and heard so far.

`Heeds A P Q history program` says of a program that comes after `history`, and whose exchanges all
satisfy `A`, that each of its actions satisfies `P` and the value it returns satisfies `Q`, both of
everything exchanged up to there.

Owns: the judgement, its rules along the program, and what it says of a trace.
-/

namespace Barista.Foundation

variable {S : Signature} {α β : Type}

namespace Prog

/-- Each action and the value returned agree with what was exchanged before. -/
def Heeds (A : Exchange S → Prop) (P : List (Exchange S) → S.Act → Prop)
    (Q : List (Exchange S) → α → Prop) : List (Exchange S) → Prog S α → Prop
  | history, pure value => Q history value
  | history, step act next =>
    P history act ∧
      ∀ answer, A ⟨act, answer⟩ → Heeds A P Q (history ++ [⟨act, answer⟩]) (next answer)

namespace Heeds

variable {A : Exchange S → Prop} {P P' : List (Exchange S) → S.Act → Prop}
  {Q : List (Exchange S) → α → Prop} {R : List (Exchange S) → β → Prop}
  {history trace : List (Exchange S)} {program : Prog S α}

theorem bind {rest : α → Prog S β} (first : Heeds A P Q history program)
    (second : ∀ later value, Q later value → Heeds A P R later (rest value)) :
    Heeds A P R history (program.bind rest) := by
  induction program generalizing history with
  | pure value => exact second history value first
  | step act next ih =>
    exact ⟨first.1, fun answer assumed => ih answer (first.2 answer assumed)⟩

theorem mono {Q' : List (Exchange S) → α → Prop} (heeds : Heeds A P Q history program)
    (acts : ∀ later act, P later act → P' later act)
    (values : ∀ later value, Q later value → Q' later value) : Heeds A P' Q' history program := by
  induction program generalizing history with
  | pure value => exact values _ _ heeds
  | step act next ih =>
    exact ⟨acts _ _ heeds.1, fun answer assumed =>
      ih answer (heeds.2 answer assumed)⟩

theorem and {P' : List (Exchange S) → S.Act → Prop} {Q' : List (Exchange S) → α → Prop}
    (heeds : Heeds A P Q history program) (too : Heeds A P' Q' history program) :
    Heeds A (fun later act => P later act ∧ P' later act)
      (fun later value => Q later value ∧ Q' later value) history program := by
  induction program generalizing history with
  | pure value => exact ⟨heeds, too⟩
  | step act next ih =>
    exact ⟨⟨heeds.1, too.1⟩, fun answer assumed =>
      ih answer (heeds.2 answer assumed) (too.2 answer assumed)⟩

theorem grows (program : Prog S α) (history : List (Exchange S)) :
    Heeds A (fun later _ => history <+: later)
      (fun last value => ∃ later, last = history ++ later ∧ Ran program later value)
      history program := by
  induction program generalizing history with
  | pure value => exact ⟨[], by simp, .refl _⟩
  | step act next ih =>
    refine ⟨List.prefix_rfl, fun answer _ => (ih answer _).mono ?_ ?_⟩
    · exact fun later _ grown => (List.prefix_append ..).trans grown
    · rintro last value ⟨later, rfl, ran⟩
      exact ⟨⟨act, answer⟩ :: later, by simp, .step ran⟩

theorem of_emits {K : S.Act → Prop} (emits : program.Emits K)
    (acts : ∀ later act, (∀ exchange ∈ later, K exchange.act) → K act → P (history ++ later) act) :
    Heeds A P
      (fun last _ => ∃ later, last = history ++ later ∧ ∀ exchange ∈ later, K exchange.act)
      history program := by
  induction program generalizing history with
  | pure value => exact ⟨[], by simp, by simp⟩
  | step act next ih =>
    refine ⟨by simpa using acts [] act (by simp) emits.1, fun answer _ => ?_⟩
    have further : ∀ later act', (∀ exchange ∈ later, K exchange.act) → K act' →
        P (history ++ [⟨act, answer⟩] ++ later) act' := by
      intro later act' kinds isKind
      rw [List.append_assoc]
      exact acts _ act' (List.forall_mem_cons.mpr ⟨emits.1, kinds⟩) isKind
    refine (ih answer (emits.2 answer) further).mono (fun _ _ => id) ?_
    rintro last value ⟨later, rfl, kinds⟩
    exact ⟨⟨act, answer⟩ :: later, by simp, List.forall_mem_cons.mpr ⟨emits.1, kinds⟩⟩

theorem after {residual : Prog S α} (heeds : Heeds A P Q history program)
    (reached : After program trace residual) (assumed : ∀ exchange ∈ trace, A exchange) :
    Heeds A P Q (history ++ trace) residual := by
  induction reached generalizing history with
  | refl program => simpa using heeds
  | step _ ih =>
    obtain ⟨now, later⟩ := List.forall_mem_cons.mp assumed
    have further := ih (heeds.2 _ now) later
    rwa [List.append_assoc] at further

theorem exchange {residual : Prog S α} (heeds : Heeds A P Q history program)
    (reached : After program trace residual) (assumed : ∀ exchange ∈ trace, A exchange)
    {early late : List (Exchange S)} {exchange : Exchange S}
    (split : trace = early ++ exchange :: late) : P (history ++ early) exchange.act := by
  induction reached generalizing history early with
  | refl program => simp at split
  | step continued ih =>
    obtain ⟨now, later⟩ := List.forall_mem_cons.mp assumed
    cases early with
    | nil =>
      cases split
      simpa using heeds.1
    | cons first early =>
      cases split
      have further := ih (heeds.2 _ now) later rfl
      rwa [List.append_assoc] at further

end Heeds

section Assembled

variable {Piece : {β : Type} → Prog S β → (β → Prop) → Prop} {A : Exchange S → Prop}
  {P : List (Exchange S) → S.Act → Prop} {Q : α → Prop} {program : Prog S α}

/-- **A program heeds what its pieces heed**, where each keeps its promise. -/
theorem Assembled.heeds (assembled : Assembled Piece program Q)
    (pieces : ∀ {β : Type} {piece : Prog S β} {R : β → Prop} (history : List (Exchange S)),
      Piece piece R → Heeds A P (fun _ => R) history piece) (history : List (Exchange S)) :
    Heeds A P (fun _ => Q) history program := by
  induction assembled generalizing history with
  | pure holds => exact holds
  | piece isPiece => exact pieces history isPiece
  | bind _ _ first rest =>
    exact (first history).bind fun later value promised => rest value promised later

theorem Assembled.emits {K : S.Act → Prop} (assembled : Assembled Piece program Q)
    (promised : ∀ {β : Type} {piece : Prog S β} {R : β → Prop}, Piece piece R → ∀ value, R value)
    (pieces : ∀ {β : Type} {piece : Prog S β} {R : β → Prop}, Piece piece R → piece.Emits K) :
    program.Emits K := by
  refine emits_of_after fun reached => ?_
  have heeds := assembled.heeds (A := fun _ => True) (P := fun _ => K) (fun history isPiece =>
    (Heeds.of_emits (pieces isPiece) fun _ _ _ => id).mono (fun _ _ => id) fun _ value _ =>
      promised isPiece value) []
  exact (heeds.after reached fun _ _ => trivial).1

end Assembled

end Prog

end Barista.Foundation
