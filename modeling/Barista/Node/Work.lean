import Barista.Node.Executors

/-!
Contract: who does an operation's work, and what the work of each payload is.

A call on the runtime that acts and a write to the `snapshots` table are made by an executor
that holds its claim. The only others are those of crash recovery, the compensation of a failed
create or fork, and the row of an imported capsule.

Owns: the work of each payload, and the place of every action of an operation's work in the
program of the task that performs it.
-/

namespace Barista.Node

open Foundation Fleet
open Prog (Emits After Ran)

/-! ### The work of a payload -/

def WorksAt {α : Type} (P : NodeAct → Prop) (program : NodeProg α) : Prop :=
  program.Emits fun act : NodeAct => act.isWork = true → P act

namespace WorksAt

variable {agent : Agent} {P Q : NodeAct → Prop} {α β : Type}

theorem pure {value : α} : WorksAt P (.pure value : NodeProg α) := trivial

theorem seq {program : NodeProg α} {rest : α → NodeProg β} (first : WorksAt P program)
    (second : ∀ value, WorksAt P (rest value)) : WorksAt P (program.bind rest) :=
  Emits.bind first second

theorem idle {act : NodeAct} (isIdle : act.isWork = false) : WorksAt P (perform act) :=
  ⟨fun work => (Bool.false_ne_true (isIdle.symm.trans work)).elim, fun _ => trivial⟩

theorem aside {program : NodeProg α} (aside : Aside program) : WorksAt P program := by
  refine Emits.mono (fun act isAside work => ?_) aside
  cases isAside.2.symm.trans work

theorem custodial {program : NodeProg α} (custodial : Custodial program) : WorksAt P program := by
  refine Emits.mono (fun act isCustodial work => ?_) custodial
  have idle : act.isWork = false := by
    cases act with
    | journal query => cases query <;> first | rfl | cases isCustodial
    | runtime call => cases isCustodial
    | _ => rfl
  cases idle.symm.trans work

theorem performs {program : NodeProg α} (performs : Performs P program) : WorksAt P program :=
  Emits.mono (fun _ => And.right) performs

theorem step (op : OperationRow) (name : String) : WorksAt P (Node.step op name) :=
  performs (Performs.step op name)

end WorksAt

/-! ### Who does it -/

section Tasks

variable {agent : Agent} {P : NodeAct → Prop} {α : Type} {executor : Executor}

theorem idle_covers (permit : Permit) : Covers agent permit (.ofLeases fun _ _ => True)
    fun act : NodeAct => act.isWork = true → P act where
  aside _ isAside := (WorksAt.aside (Aside.act isAside.1 isAside.2)).1
  custodial _ isCustodial := (WorksAt.custodial (Custodial.act isCustodial)).1
  spawn _ := nofun
  submit _ _ _ _ := nofun
  fail _ _ := nofun

theorem idle_sectioned {permit : Permit} {program : NodeProg α}
    (sectioned : Sectioned agent permit (.ofLeases fun _ _ => True) program) : WorksAt P program :=
  (idle_covers permit).emits_sectioned (fun _ _ => trivial) (fun _ _ _ => trivial) sectioned

theorem idle_failClosed (op : OperationRow) (message : String) :
    WorksAt P (failClosed op message) := by
  refine .seq (.step ..) fun _ => .seq (.idle rfl) fun answer => ?_
  split
  · exact .custodial (Custodial.announceFinish ..)
  · exact .pure

theorem works_finalize (kind : OpKind) (op : OperationRow) (recorded : InstanceState)
    (epoch : Option Nat) (work : Work) :
    WorksAt (fun act => act = .runtime (.removeOrphan op.instanceId) ∧
      (kind = .create ∨ kind = .fork)) (finalize agent kind op recorded epoch work) := by
  refine .seq (.step ..) fun _ => .seq (.aside (Consults.deadlineFor ..).aside) fun _ =>
    .seq (.aside (Consults.stopReasonFor ..).aside) fun _ => .seq ?_ fun _ => .seq (.idle rfl)
      fun answer => ?_
  · exact .performs (Performs.compensate ..)
  · split
    · exact .custodial (Custodial.announceFinish ..)
    · exact .aside (Aside.record _)

/-- **An executor does its work while it is at its payload**, but for what it compensates. -/
theorem execute_work {trace : NodeTrace} {act : NodeAct} {next : NodeSig.Ans act → NodeProg Unit}
    (reached : After (execute agent executor) trace (.step act next)) (work : act.isWork = true) :
    (Nonempty (Working agent executor trace act) ∧
      executor.payload.does executor.op.instanceId act) ∨
      (act = .runtime (.removeOrphan executor.op.instanceId) ∧
        (executor.kind = .create ∨ executor.kind = .fork)) := by
  rcases execute_cases reached with
    ⟨⟨working⟩⟩ | ⟨inner, rotates⟩ | ⟨within, inner, stamps⟩ | ⟨message, _, within, inner,
      -, -, closes⟩ |
    ⟨_, epoch, _, result, within, inner, -, -, finalizes⟩
  · exact .inl ⟨⟨working⟩,
      ((WorksAt.performs (Performs.runPayload ..)).after working.works).2.1 work⟩
  · rcases ((rotateEpoch_rotates ..).after rotates).2.1 with rfl | ⟨_, rfl⟩ <;> cases work
  · exact ((WorksAt.custodial (P := fun _ => False) (Keeping.stamp _).custodial).after stamps).2.1
      work |>.elim
  · exact ((idle_failClosed (P := fun _ => False) ..).after closes).2.1 work |>.elim
  · exact .inr (((works_finalize ..).after finalizes).2.1 work)

theorem works_boot (failed : List OperationRow) :
    WorksAt (fun act => ∃ id, act = .runtime (.stop id 0) ∨ act = .runtime (.removeOrphan id))
      (boot agent failed) :=
  (idle_covers .booter).emits_boot (fun _ _ => trivial) (fun id _ => ⟨id, .inl rfl⟩)
    (fun id _ => ⟨id, .inr rfl⟩) (fun _ _ _ => nofun) nofun nofun failed

theorem idle_tick : WorksAt P (tick agent) := by
  have vanished : WorksAt P (reconcileVanished agent) :=
    idle_sectioned (@Sectioned.reconcileVanished agent .ticker _ rfl rfl)
  refine .seq (.idle rfl) fun _ => .seq vanished fun _ => .seq (.idle rfl) fun joined =>
    .seq ?_ fun _ => .idle rfl
  unfold whenever
  split
  · exact .seq (idle_sectioned Sectioned.pass) fun _ => .pure
  · exact .pure

/-- **Only an executor and recovery work.** -/
theorem role_work {role : Role} {trace : NodeTrace} {act : NodeAct}
    {next : NodeSig.Ans act → NodeProg Unit}
    (reached : After (role.prog agent) trace (.step act next)) (work : act.isWork = true) :
    (∃ executor, role = .executor executor) ∨ ((∃ failed, role = .boot failed) ∧
        ∃ id, act = .runtime (.stop id 0) ∨ act = .runtime (.removeOrphan id)) := by
  have idle (never : WorksAt (fun _ => False) (role.prog agent)) : False :=
    (never.after reached).2.1 work
  cases role with
  | boot failed => exact .inr ⟨⟨failed, rfl⟩, ((works_boot failed).after reached).2.1 work⟩
  | tick => exact (idle idle_tick).elim
  | caller invocation =>
    exact (idle (idle_sectioned (sectioned_invocation invocation fun _ _ => trivial))).elim
  | executor executor => exact .inl ⟨executor, rfl⟩
  | peer request =>
    exact (idle (.seq (.custodial (Keeping.onBucket ..).custodial) fun _ => .pure)).elim

/-- Work that neither recovery nor a compensation does is that of an executor's payload. -/
theorem payload_work {role : Role} {trace : NodeTrace} {act : NodeAct}
    {next : NodeSig.Ans act → NodeProg Unit}
    (reached : After (role.prog agent) trace (.step act next)) (work : act.isWork = true)
    (keeps : ∀ id, act ≠ .runtime (.stop id 0) ∧ act ≠ .runtime (.removeOrphan id)) :
    ∃ executor, role = .executor executor ∧ Nonempty (Working agent executor trace act) ∧
      executor.payload.does executor.op.instanceId act := by
  rcases role_work reached work with ⟨executor, rfl⟩ | ⟨-, id, stops | removes⟩
  · rcases execute_work reached work with works | ⟨compensates, -⟩
    · exact ⟨executor, rfl, works⟩
    · exact absurd compensates (keeps _).2
  · exact absurd stops (keeps id).1
  · exact absurd removes (keeps id).2

end Tasks

end Barista.Node
