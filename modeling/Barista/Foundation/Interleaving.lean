import Barista.Foundation.Program

/-!
Contract: rely/guarantee reasoning for a pool of interleaved programs.

A `Pool` is a shared state and the programs of the tasks that run over it. One
step lets one task perform its next action. A `Discipline` names the shared
invariant, what each task relies on the others for, and what each of its own
steps guarantees; `Discipline.wp` is the proof obligation of one program, and
`Pool.Covered` says that every task of a pool has met its own.

Owns: pools, the step of a pool, the proof rules for one program, and the
preservation of `Covered` by steps, new tasks and outside events.
-/

namespace Barista.Foundation

variable {S : Signature} {World Choice Role α β : Type}

theorem located_set {items : List β} {index other : Nat} {old written item : β}
    (found : items[index]? = some old) (located : (items.set index written)[other]? = some item) :
    (other = index ∧ item = written) ∨ (other ≠ index ∧ items[other]? = some item) := by
  by_cases same : other = index
  · subst same
    rw [List.getElem?_set_self (List.getElem?_eq_some_iff.mp found).1] at located
    exact .inl ⟨rfl, (Option.some.inj located).symm⟩
  · rw [List.getElem?_set_ne (Ne.symm same)] at located
    exact .inr ⟨same, located⟩

theorem located_append {items : List β} {index : Nat} {last item : β}
    (located : (items ++ [last])[index]? = some item) :
    items[index]? = some item ∨ (index = items.length ∧ item = last) := by
  rw [List.getElem?_append] at located
  split at located
  · exact .inl located
  · next past =>
      rw [List.getElem?_singleton] at located
      split at located
      · exact .inr ⟨by omega, (Option.some.inj located).symm⟩
      · cases located

structure Task (S : Signature) (Role α : Type) where
  role : Role
  prog : Prog S α

/-- A shared state and the tasks running over it. A task keeps its index for ever;
one that has returned stays in the list with its value. -/
structure Pool (S : Signature) (Role α World : Type) where
  world : World
  tasks : List (Task S Role α)

namespace Pool

/-- The task at `index` performs its next action. -/
def step (machine : Machine S World Choice) (pool : Pool S Role α World)
    (index : Nat) (choice : Choice) : Option (Pool S Role α World) :=
  match pool.tasks[index]? with
  | some ⟨role, .step act next⟩ =>
    match machine.exec index act choice pool.world with
    | some (answer, world) => some ⟨world, pool.tasks.set index ⟨role, next answer⟩⟩
    | none => none
  | _ => none

def spawn (pool : Pool S Role α World) (task : Task S Role α) : Pool S Role α World :=
  { pool with tasks := pool.tasks ++ [task] }

@[simp] theorem spawn_world (pool : Pool S Role α World) (task : Task S Role α) :
    (pool.spawn task).world = pool.world := rfl

theorem step_cases {machine : Machine S World Choice} {pool next : Pool S Role α World}
    {index : Nat} {choice : Choice} (stepped : pool.step machine index choice = some next) :
    ∃ role act continuation answer world, pool.tasks[index]? = some ⟨role, .step act continuation⟩ ∧
      machine.exec index act choice pool.world = some (answer, world) ∧
      next = ⟨world, pool.tasks.set index ⟨role, continuation answer⟩⟩ := by
  unfold step at stepped
  split at stepped
  · next role act continuation found =>
      split at stepped
      · next answer world executed =>
          exact ⟨role, act, continuation, answer, world, found, executed,
            (Option.some.inj stepped).symm⟩
      · cases stepped
  · cases stepped

end Pool

/-- The terms on which the tasks of a pool share its state. `Assume` is what a result
takes for granted of a step (`True` where nothing is); `Guar` is what the step then
guarantees, and other tasks may `Rely` on. -/
structure Discipline (machine : Machine S World Choice) (Role α : Type) where
  Inv : World → Prop
  Rely : Nat → Role → World → World → Prop
  Assume : Nat → Role → (act : S.Act) → S.Ans act → World → World → Prop
  Guar : Nat → Role → (act : S.Act) → S.Ans act → World → World → Prop
  Post : Nat → Role → α → World → Prop
  rely_refl : ∀ index role world, Rely index role world world
  rely_trans : ∀ {index role first second third},
    Rely index role first second → Rely index role second third → Rely index role first third
  guar_rely : ∀ {actor role act answer other otherRole before after}, actor ≠ other →
    Inv before → Inv after → Guar actor role act answer before after →
    Rely other otherRole before after

namespace Discipline

variable {machine : Machine S World Choice} (D : Discipline machine Role α)
variable {index : Nat} {role : Role}

/-- The obligation of one program: whatever the others do within the rely, each of its
steps keeps the invariant and meets the guarantee, and its value satisfies `Q`. -/
def wp (index : Nat) (role : Role) : Prog S β → (β → World → Prop) → World → Prop
  | .pure value, Q, world => ∀ current, D.Rely index role world current → D.Inv current →
      Q value current
  | .step act next, Q, world => ∀ current, D.Rely index role world current → D.Inv current →
      ∀ choice answer after, machine.exec index act choice current = some (answer, after) →
        D.Assume index role act answer current after →
        D.Inv after ∧ D.Guar index role act answer current after ∧
          wp index role (next answer) Q after

variable {D}

variable {program : Prog S β} {Q : β → World → Prop} {world : World}

theorem wp_rely {later : World} (obligation : D.wp index role program Q world)
    (relied : D.Rely index role world later) : D.wp index role program Q later := by
  cases program with
  | pure value =>
    intro current reached
    exact obligation current (D.rely_trans relied reached)
  | step act next =>
    intro current reached
    exact obligation current (D.rely_trans relied reached)

/-- An obligation may be proved after the others have moved. -/
theorem wp_of_rely (obligation : ∀ current, D.Rely index role world current → D.Inv current →
      D.wp index role program Q current) : D.wp index role program Q world := by
  cases program with
  | pure value =>
    intro current reached invariant
    exact obligation current reached invariant current (D.rely_refl ..) invariant
  | step act next =>
    intro current reached invariant
    exact obligation current reached invariant current (D.rely_refl ..) invariant

theorem wp_mono {R : β → World → Prop} (weaker : ∀ value world, D.Inv world → Q value world →
    R value world)
    (obligation : D.wp index role program Q world) : D.wp index role program R world := by
  induction program generalizing world with
  | pure value =>
    intro current reached invariant
    exact weaker value current invariant (obligation current reached invariant)
  | step act next ih =>
    intro current reached invariant choice answer after executed assumed
    obtain ⟨kept, guaranteed, rest⟩ := obligation current reached invariant choice answer after
      executed assumed
    exact ⟨kept, guaranteed, ih answer rest⟩

theorem wp_bind {γ : Type} {rest : β → Prog S γ} {Q : γ → World → Prop}
    (obligation : D.wp index role program
      (fun value current => D.wp index role (rest value) Q current) world) :
    D.wp index role (program.bind rest) Q world := by
  induction program generalizing world with
  | pure value => exact wp_of_rely obligation
  | step act next ih =>
    intro current reached invariant choice answer after executed assumed
    obtain ⟨kept, guaranteed, remaining⟩ :=
      obligation current reached invariant choice answer after executed assumed
    exact ⟨kept, guaranteed, ih answer remaining⟩

theorem wp_seq {γ : Type} {rest : β → Prog S γ} {R : γ → World → Prop}
    (first : D.wp index role program Q world)
    (second : ∀ value current, D.Inv current → Q value current →
      D.wp index role (rest value) R current) :
    D.wp index role (program.bind rest) R world :=
  wp_bind (wp_mono second first)

theorem wp_pure {value : β}
    (stable : ∀ current, D.Rely index role world current → D.Inv current → Q value current) :
    D.wp index role (.pure value) Q world :=
  stable

end Discipline

namespace Pool

variable {machine : Machine S World Choice} {D : Discipline machine Role α}
variable {pool next : Pool S Role α World} {index : Nat} {choice : Choice}

/-- Every task of the pool meets its obligation, and the shared invariant holds. -/
structure Covered (D : Discipline machine Role α) (pool : Pool S Role α World) : Prop where
  inv : D.Inv pool.world
  tasks : ∀ index task, pool.tasks[index]? = some task →
    D.wp index task.role task.prog (D.Post index task.role) pool.world

theorem Covered.guar {role : Role} {act : S.Act} {continuation : S.Ans act → Prog S α}
    {answer : S.Ans act} {world : World} (covered : pool.Covered D)
    (found : pool.tasks[index]? = some ⟨role, .step act continuation⟩)
    (executed : machine.exec index act choice pool.world = some (answer, world))
    (assumed : D.Assume index role act answer pool.world world) :
    D.Inv world ∧ D.Guar index role act answer pool.world world ∧
      D.wp index role (continuation answer) (D.Post index role) world :=
  covered.tasks index _ found pool.world (D.rely_refl ..) covered.inv choice answer world
    executed assumed

theorem Covered.post {role : Role} {value : α} (covered : pool.Covered D)
    (found : pool.tasks[index]? = some ⟨role, .pure value⟩) : D.Post index role value pool.world :=
  covered.tasks index _ found pool.world (D.rely_refl ..) covered.inv

theorem Covered.step (covered : pool.Covered D)
    (stepped : pool.step machine index choice = some next)
    (assumed : ∀ role act continuation answer world, pool.tasks[index]? = some
      ⟨role, .step act continuation⟩ →
      machine.exec index act choice pool.world = some (answer, world) →
      D.Assume index role act answer pool.world world) :
    next.Covered D := by
  obtain ⟨role, act, continuation, answer, world, found, executed, rfl⟩ := step_cases stepped
  obtain ⟨kept, guaranteed, remaining⟩ :=
    covered.guar found executed (assumed role act continuation answer world found executed)
  refine ⟨kept, fun other task located => ?_⟩
  rcases located_set found located with ⟨rfl, rfl⟩ | ⟨same, located⟩
  · exact remaining
  · exact Discipline.wp_rely (covered.tasks other task located)
      (D.guar_rely (Ne.symm same) covered.inv kept guaranteed)

theorem Covered.spawn {task : Task S Role α} (covered : pool.Covered D)
    (obligation : D.wp pool.tasks.length task.role task.prog
      (D.Post pool.tasks.length task.role) pool.world) :
    (pool.spawn task).Covered D := by
  refine ⟨covered.inv, fun other found located => ?_⟩
  rcases located_append located with located | ⟨rfl, rfl⟩
  · exact covered.tasks other found located
  · exact obligation

theorem Covered.event {world : World} (covered : pool.Covered D) (kept : D.Inv world)
    (relied : ∀ index role, D.Rely index role pool.world world) :
    Pool.Covered D { pool with world := world } :=
  ⟨kept, fun other task located =>
    Discipline.wp_rely (covered.tasks other task located) (relied other task.role)⟩

end Pool

end Barista.Foundation
