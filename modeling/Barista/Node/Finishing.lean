import Barista.Node.PauseResume

/-!
Contract: what an executor that has come to its end has said and heard.

Its trace falls into the parts of its program: the epoch, the stamp, the work, and a finalize that
arms a deadline, explains a stop, compensates a failure, writes the outcome once, and announces it
when it was written.

Owns: the parts of a complete execution and what each came to.
-/

namespace Barista.Node

open Foundation Fleet
open Prog (Emits Ran ran_bind ran_step ran_pure)

variable {agent : Agent} {kind : OpKind} {op : OperationRow} {recorded : InstanceState}
  {epoch : Option Nat} {work : Work} {trace : NodeTrace} {executor : Executor}

/-- What follows the write of the outcome: its announcement, or the report that it was lost. -/
def closeFinalize (op : OperationRow) (settled : InstanceState) (stopReason : Option StopReason)
    (epoch : Option Nat) (succeeded : Bool) : Except String Finalized → NodeProg Unit
  | .ok finalized => announceFinish op settled stopReason epoch succeeded finalized
  | .error cause =>
    Events.degradation op.instanceId op.opId ("the journal could not record this operation's " ++
      s!"outcome ({cause}); the runtime acted but the node cannot describe it, so the " ++
      "operation is left in flight for crash recovery")

structure Finalizing (agent : Agent) (kind : OpKind) (op : OperationRow) (recorded : InstanceState)
    (epoch : Option Nat) (work : Work) (trace : NodeTrace) where
  stepping : NodeTrace
  arming : NodeTrace
  explaining : NodeTrace
  compensating : NodeTrace
  closing : NodeTrace
  deadline : Option Int
  stopReason : Option StopReason
  reported : Work
  answer : Except String Finalized
  split : trace = stepping ++ (arming ++ (explaining ++ (compensating ++
    ⟨.journal (.finishOperation (finishArgs op (settledState kind recorded work.result) deadline
      stopReason reported)), answer⟩ :: closing)))
  stepped : Ran (step op "finalize") stepping ()
  armed : Ran (deadlineFor op.instanceId (settledState kind recorded work.result)) arming deadline
  explained : Ran (stopReasonFor kind op.instanceId (settledState kind recorded work.result))
    explaining stopReason
  compensated : Ran (compensate agent kind op work) compensating reported
  closed : Ran (closeFinalize op (settledState kind recorded work.result) stopReason epoch
    reported.result.isOk answer) closing ()

def Finalizing.args (finalizing : Finalizing agent kind op recorded epoch work trace) :
    FinishArgs :=
  finishArgs op (settledState kind recorded work.result) finalizing.deadline finalizing.stopReason
    finalizing.reported

theorem Finalizing.finishes (finalizing : Finalizing agent kind op recorded epoch work trace) :
    ⟨.journal (.finishOperation finalizing.args), finalizing.answer⟩ ∈ trace := by
  obtain ⟨_, _, _, _, _, _, _, _, _, rfl, _, _, _, _, _⟩ := finalizing
  simp [Finalizing.args]

theorem Finalizing.closes (finalizing : Finalizing agent kind op recorded epoch work trace) :
    finalizing.closing ⊆ trace := by
  intro exchange member
  rw [finalizing.split]
  simp [member]

theorem finalize_ran (ran : Ran (finalize agent kind op recorded epoch work) trace ()) :
    Nonempty (Finalizing agent kind op recorded epoch work trace) := by
  obtain ⟨stepping, ⟨⟩, _, rfl, stepped, arms⟩ := ran_bind ran
  obtain ⟨arming, deadline, _, rfl, armed, explains⟩ := ran_bind arms
  obtain ⟨explaining, stopReason, _, rfl, explained, compensates⟩ := ran_bind explains
  obtain ⟨compensating, reported, _, rfl, compensated, finishes⟩ := ran_bind compensates
  obtain ⟨answer, closing, rfl, closes⟩ := ran_step finishes
  dsimp only [Prog.pure_bind] at closes
  have closed : Ran (closeFinalize op (settledState kind recorded work.result) stopReason epoch
      reported.result.isOk answer) closing () := by
    cases answer <;> exact closes
  exact ⟨⟨stepping, arming, explaining, compensating, closing, deadline, stopReason, reported,
    answer, rfl, stepped, armed, explained, compensated, closed⟩⟩

/-- The parts of an execution that has come to its end, and rotated its epoch if it had to. -/
structure Executed (agent : Agent) (executor : Executor) (trace : NodeTrace) where
  rotating : NodeTrace
  stamping : NodeTrace
  working : NodeTrace
  finishing : NodeTrace
  epoch : Option Nat
  work : Work
  split : trace = rotating ++ (stamping ++ (working ++ finishing))
  rotated : Ran (rotateEpoch executor.kind executor.op.instanceId) rotating (.ok epoch)
  stamped : Ran (stampLeaseState executor.op.instanceId) stamping ()
  worked : Ran (runPayload agent executor.op executor.recorded (epoch.getD 0) executor.payload)
    working work
  finalizing : Finalizing agent executor.kind executor.op executor.recorded epoch work finishing

theorem execute_ran (ran : Ran (execute agent executor) trace ()) :
    Nonempty (Executed agent executor trace) ∨ ∃ rotating message, rotating ⊆ trace ∧
      Ran (rotateEpoch executor.kind executor.op.instanceId) rotating (.error message) := by
  obtain ⟨rotating, rotation, _, rfl, rotated, stamps⟩ := ran_bind ran
  obtain ⟨stamping, ⟨⟩, _, rfl, stamped, acts⟩ := ran_bind stamps
  cases rotation with
  | error message => exact .inr ⟨rotating, message, by simp, rotated⟩
  | ok epoch =>
    obtain ⟨working, work, finishing, rfl, worked, finalizes⟩ := ran_bind acts
    obtain ⟨finalizing⟩ := finalize_ran finalizes
    exact .inl ⟨⟨rotating, stamping, working, finishing, epoch, work, rfl, rotated, stamped, worked,
      finalizing⟩⟩

namespace Executed

theorem ends (executed : Executed agent executor trace) : executed.finishing ⊆ trace := by
  intro exchange member
  rw [executed.split]
  simp [member]

theorem finishes (executed : Executed agent executor trace) :
    ⟨.journal (.finishOperation executed.finalizing.args), executed.finalizing.answer⟩ ∈ trace :=
  executed.ends executed.finalizing.finishes

theorem works (executed : Executed agent executor trace) : executed.working ⊆ trace := by
  intro exchange member
  rw [executed.split]
  simp [member]

/-- **An execution writes its outcome once.** -/
theorem finish_only (executed : Executed agent executor trace) {args : FinishArgs}
    {answer : Except String Finalized}
    (member : ⟨.journal (.finishOperation args), answer⟩ ∈ trace) :
    args = executed.finalizing.args ∧ answer = executed.finalizing.answer := by
  have never {β : Type} {P : NodeAct → Prop} {program : NodeProg β} {part : NodeTrace}
      {value : β} (emits : program.Emits P) (ran : Ran program part value)
      (other : ¬ P (.journal (.finishOperation args))) :
      ⟨.journal (.finishOperation args), answer⟩ ∉ part :=
    fun inside => other ((emits.after ran).1 _ inside)
  rw [executed.split, List.mem_append, List.mem_append, List.mem_append,
    executed.finalizing.split, List.mem_append, List.mem_append, List.mem_append, List.mem_append,
    List.mem_cons] at member
  rcases member with rotates | stamps | works | steps | arms | explains |
    compensates | same | closes
  · refine absurd rotates (never (rotateEpoch_rotates ..) executed.rotated ?_)
    rintro (rotates | ⟨_, rotates⟩) <;> cases rotates
  · exact absurd stamps (never (Keeping.stamp _) executed.stamped nofun)
  · exact absurd works (never (Loose.runPayload ..) executed.worked nofun)
  · exact absurd steps (never (Loose.step ..) executed.finalizing.stepped nofun)
  · exact absurd arms (never (Consults.deadlineFor ..).aside.loose executed.finalizing.armed nofun)
  · exact absurd explains
      (never (Consults.stopReasonFor ..).aside.loose executed.finalizing.explained nofun)
  · exact absurd compensates (never (Loose.compensate ..) executed.finalizing.compensated nofun)
  · cases same
    exact ⟨rfl, rfl⟩
  · have closed := executed.finalizing.closed
    refine absurd closes ?_
    cases answered : executed.finalizing.answer with
    | ok finalized =>
      rw [answered] at closed
      exact never (Custodial.announceFinish ..) closed nofun
    | error cause =>
      rw [answered] at closed
      exact never (Loose.record _) closed nofun

end Executed

end Barista.Node
