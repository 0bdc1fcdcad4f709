import Mathlib.Data.List.Induction
import Mathlib.Order.Basic

/-!
Contract: finite runs of a labelled, partial step function.

Owns: runs, their composition, conditions on every step of a run, observers of a run, and
the induction rules every whole-run result of this development uses (an invariant, one
that needs such a condition, one that speaks of an observer's notes, and a relation
between the ends).
-/

namespace Barista.Foundation

variable {State Label : Type} {next : State → Label → Option State}

/-- What a decided fact about the end of a run says. -/
theorem exists_of_any {α : Type} {end_ : Option α} {P : α → Prop} [DecidablePred P]
    (decided : (end_.any fun value => P value) = true) : ∃ value, end_ = some value ∧ P value := by
  obtain ⟨value, reached, holds⟩ := (Option.any_eq_true _ _).mp decided
  exact ⟨value, reached, of_decide_eq_true holds⟩

theorem exists_found_of_any {α β : Type} {end_ : Option α} {find : α → Option β} {P : α → β → Prop}
    [∀ value, DecidablePred (P value)]
    (decided : (end_.any fun value => (find value).any fun found => P value found) = true) :
    ∃ value found, end_ = some value ∧ find value = some found ∧ P value found := by
  obtain ⟨value, reached, holds⟩ := (Option.any_eq_true _ _).mp decided
  obtain ⟨found, looked, holds⟩ := exists_of_any holds
  exact ⟨value, found, reached, looked, holds⟩

theorem exists_mem_of_any {α β : Type} {end_ : Option α} {items : α → List β} {P : α → β → Prop}
    [∀ value, DecidablePred (P value)]
    (decided : (end_.any fun value => (items value).any fun item => P value item) = true) :
    ∃ value item, end_ = some value ∧ item ∈ items value ∧ P value item := by
  obtain ⟨value, reached, holds⟩ := (Option.any_eq_true _ _).mp decided
  obtain ⟨item, member, holds⟩ := List.any_eq_true.mp holds
  exact ⟨value, item, reached, member, of_decide_eq_true holds⟩

/-- Take the labelled steps one after another; `none` once one of them is not possible. -/
def run (next : State → Label → Option State) : State → List Label → Option State
  | state, [] => some state
  | state, label :: rest => (next state label).bind fun after => run next after rest

@[simp] theorem run_nil (state : State) : run next state [] = some state := rfl

variable {state last : State} {label : Label}

theorem run_cons {rest : List Label} (reached : run next state (label :: rest) = some last) :
    ∃ after, next state label = some after ∧ run next after rest = some last :=
  Option.bind_eq_some_iff.mp reached

theorem run_append (state : State) (first second : List Label) : run next state (first ++ second) =
      (run next state first).bind fun middle => run next middle second := by
  induction first generalizing state with
  | nil => rfl
  | cons label rest ih =>
    simp only [List.cons_append, run, ih, Option.bind_assoc]

variable {labels : List Label}

variable {start : State}

theorem run_induction {P : List Label → State → Prop} (initial : P [] start)
    (preserved : ∀ {labels state label after}, run next start labels = some state →
      P labels state → next state label = some after → P (labels ++ [label]) after)
    (reached : run next start labels = some last) : P labels last := by
  induction labels using List.reverseRecOn generalizing last with
  | nil =>
    cases reached
    exact initial
  | append_singleton labels label ih =>
    rw [run_append] at reached
    obtain ⟨state, early, late⟩ := Option.bind_eq_some_iff.mp reached
    obtain ⟨after, stepped, done⟩ := run_cons late
    cases done
    exact preserved early (ih early) stepped

theorem run_invariant {P : State → Prop}
    (preserved : ∀ {state label after}, P state → next state label = some after → P after)
    (initial : P state) (reached : run next state labels = some last) : P last :=
  run_induction (P := fun _ state => P state) initial (fun _ => preserved) reached

theorem run_moment {P : State → Prop} (initial : ¬ P start)
    (reached : run next start labels = some last) (holds : P last) :
    ∃ early label late before after, labels = early ++ label :: late ∧
      run next start early = some before ∧ next before label = some after ∧
      ¬ P before ∧ P after := by
  refine run_induction (P := fun labels last => P last → ∃ early label late before after,
    labels = early ++ label :: late ∧ run next start early = some before ∧
      next before label = some after ∧ ¬ P before ∧ P after) (fun holds => absurd holds initial) ?_
    reached holds
  intro labels state label after came ih stepped holds
  by_cases already : P state
  · obtain ⟨early, first, late, before, then_, rfl, facts⟩ := ih already
    exact ⟨early, first, late ++ [label], before, then_, by simp, facts⟩
  · exact ⟨labels, label, [], state, after, rfl, came, stepped, already, holds⟩

/-- Every step of a run meets a condition on the state before it, its label, and the state
after it. -/
def Along (next : State → Label → Option State) (P : State → Label → State → Prop) :
    State → List Label → Prop
  | _, [] => True
  | state, label :: rest =>
    match next state label with
    | some after => P state label after ∧ Along next P after rest
    | none => True

instance Along.decidable {P : State → Label → State → Prop}
    [∀ state label after, Decidable (P state label after)] :
    (state : State) → (labels : List Label) → Decidable (Along next P state labels)
  | _, [] => inferInstanceAs (Decidable True)
  | state, label :: rest =>
    match taken : next state label with
    | some after =>
      have : Decidable (Along next P after rest) := Along.decidable after rest
      decidable_of_iff (P state label after ∧ Along next P after rest) (by simp [Along, taken])
    | none => isTrue (by simp [Along, taken])

variable {P : State → Label → State → Prop}

theorem Along.cons {after : State} {rest : List Label} (along : Along next P state (label :: rest))
    (stepped : next state label = some after) : P state label after ∧ Along next P after rest := by
  simpa [Along, stepped] using along

theorem Along.mono {Q : State → Label → State → Prop}
    (weaker : ∀ {state label after}, next state label = some after → P state label after →
      Q state label after) (along : Along next P state labels) : Along next Q state labels := by
  induction labels generalizing state with
  | nil => trivial
  | cons label rest ih =>
    unfold Along at along ⊢
    split
    · next after stepped =>
        rw [stepped] at along
        exact ⟨weaker stepped along.1, ih along.2⟩
    · trivial

theorem Along.and {Q : State → Label → State → Prop} (first : Along next P state labels)
    (second : Along next Q state labels) :
    Along next (fun before label after => P before label after ∧ Q before label after)
      state labels := by
  induction labels generalizing state with
  | nil => trivial
  | cons label rest ih =>
    unfold Along at first second ⊢
    split
    · next after stepped =>
        rw [stepped] at first second
        exact ⟨⟨first.1, second.1⟩, ih first.2 second.2⟩
    · trivial

theorem Along.of_labels (met : ∀ label ∈ labels, ∀ {before after}, P before label after) :
    Along next P state labels := by
  induction labels generalizing state with
  | nil => trivial
  | cons label rest ih =>
    unfold Along
    split
    · exact ⟨met label List.mem_cons_self, ih fun other member =>
        met other (List.mem_cons_of_mem _ member)⟩
    · trivial

theorem Along.append {middle : State} {first second : List Label}
    (along : Along next P state (first ++ second)) (reached : run next state first = some middle) :
    Along next P state first ∧ Along next P middle second := by
  induction first generalizing state with
  | nil =>
    cases reached
    exact ⟨trivial, along⟩
  | cons label rest ih =>
    obtain ⟨after, stepped, remaining⟩ := run_cons reached
    obtain ⟨here, later⟩ := along.cons stepped
    obtain ⟨firstPart, secondPart⟩ := ih later remaining
    exact ⟨by simpa [Along, stepped] using ⟨here, firstPart⟩, secondPart⟩

theorem Along.join {middle : State} {first second : List Label} (early : Along next P state first)
    (reached : run next state first = some middle) (late : Along next P middle second) :
    Along next P state (first ++ second) := by
  induction first generalizing state with
  | nil =>
    cases reached
    exact late
  | cons label rest ih =>
    obtain ⟨after, stepped, remaining⟩ := run_cons reached
    obtain ⟨here, later⟩ := early.cons stepped
    simp only [List.cons_append, Along, stepped]
    exact ⟨here, ih later remaining⟩

/-- What an observer of a run has noted at its end, taking a note at every step. -/
def observe {Note : Type} (next : State → Label → Option State)
    (note : State → Label → Note → Note) : State → List Label → Note → Note
  | _, [], noted => noted
  | state, label :: rest, noted =>
    match next state label with
    | some after => observe next note after rest (note state label noted)
    | none => noted

variable {Note : Type} {note : State → Label → Note → Note} {noted : Note}

theorem observe_snoc {after : State} (reached : run next state labels = some last)
    (stepped : next last label = some after) : observe next note state (labels ++ [label]) noted =
      note last label (observe next note state labels noted) := by
  induction labels generalizing state noted with
  | nil =>
    cases reached
    simp only [List.nil_append, observe, stepped]
  | cons first rest ih =>
    obtain ⟨middle, taken, remaining⟩ := run_cons reached
    simp only [List.cons_append, observe, taken]
    exact ih remaining

/-- The rule for a property of the state and the observer's notes, whose steps may need to know the
run that led there. -/
theorem run_observed {I : State → Note → Prop}
    (preserved : ∀ {labels state label after}, run next start labels = some state →
      I state (observe next note start labels noted) → next state label = some after →
      I after (note state label (observe next note start labels noted)))
    (initial : I start noted) (reached : run next start labels = some last) :
    I last (observe next note start labels noted) := by
  refine run_induction (P := fun labels state => I state (observe next note start labels noted))
    initial ?_ reached
  intro labels state label after early holds stepped
  rw [observe_snoc early stepped]
  exact preserved early holds stepped

theorem Along.observed_run {I : State → Note → Prop}
    (preserved : ∀ {labels state label after}, run next start labels = some state →
      Along next P start labels → I state (observe next note start labels noted) →
      next state label = some after → P state label after →
      I after (note state label (observe next note start labels noted)))
    (along : Along next P start labels) (initial : I start noted)
    (reached : run next start labels = some last) :
    I last (observe next note start labels noted) := by
  refine run_induction (P := fun labels state => Along next P start labels →
    I state (observe next note start labels noted)) (fun _ => initial) ?_ reached along
  intro labels state label after early ih stepped along
  obtain ⟨before, here⟩ := along.append early
  rw [observe_snoc early stepped]
  exact preserved early before (ih before) stepped (here.cons stepped).1

theorem Along.observed {I : State → Note → Prop}
    (preserved : ∀ {state label after noted}, I state noted → next state label = some after →
      P state label after → I after (note state label noted)) (along : Along next P state labels)
    (initial : I state noted) (reached : run next state labels = some last) :
    I last (observe next note state labels noted) :=
  along.observed_run (fun _ _ => preserved) initial reached

theorem Along.invariant_run {I : State → Prop}
    (preserved : ∀ {labels state label after}, run next start labels = some state →
      Along next P start labels → I state → next state label = some after → P state label after →
      I after) (along : Along next P start labels) (initial : I start)
    (reached : run next start labels = some last) : I last :=
  @Along.observed_run State Label next last labels start P Unit (fun _ _ noted => noted) ()
    (fun state _ => I state) preserved along initial reached

theorem Along.invariant {I : State → Prop}
    (preserved : ∀ {state label after}, I state → next state label = some after →
      P state label after → I after) (along : Along next P state labels) (initial : I state)
    (reached : run next state labels = some last) : I last :=
  along.invariant_run (fun _ _ => preserved) initial reached

theorem run_relates {P : State → Prop} {R : State → State → Prop}
    (reflexive : ∀ state, R state state)
    (transitive : ∀ {first second third}, R first second → R second third → R first third)
    (preserved : ∀ {state label after}, P state → next state label = some after →
      P after ∧ R state after) (initial : P state) (reached : run next state labels = some last) :
    R state last := by
  induction labels generalizing state with
  | nil =>
    cases reached
    exact reflexive _
  | cons label rest ih =>
    obtain ⟨after, stepped, remaining⟩ := run_cons reached
    obtain ⟨kept, related⟩ := preserved initial stepped
    exact transitive related (ih kept remaining)

end Barista.Foundation
