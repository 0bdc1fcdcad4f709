import Mathlib.Logic.Basic

/-!
Contract: the instance and operation state machines.

Owns: the two sets of states, their legal transitions, and the predicates every
other module asks about them.
-/

namespace Barista.Node

inductive InstanceState where
  | unspecified | creating | created | starting | running | checkpointing | pausing | paused
  | resuming | stopping | stopped | destroying | destroyed | failed
deriving DecidableEq, Repr

inductive OperationState where
  | unspecified | queued | running | awaitingInput | done | failed | canceled
deriving DecidableEq, Repr

namespace InstanceState

def asStrName : InstanceState → String
  | unspecified => "INSTANCE_STATE_UNSPECIFIED"
  | creating => "INSTANCE_STATE_CREATING"
  | created => "INSTANCE_STATE_CREATED"
  | starting => "INSTANCE_STATE_STARTING"
  | running => "INSTANCE_STATE_RUNNING"
  | checkpointing => "INSTANCE_STATE_CHECKPOINTING"
  | pausing => "INSTANCE_STATE_PAUSING"
  | paused => "INSTANCE_STATE_PAUSED"
  | resuming => "INSTANCE_STATE_RESUMING"
  | stopping => "INSTANCE_STATE_STOPPING"
  | stopped => "INSTANCE_STATE_STOPPED"
  | destroying => "INSTANCE_STATE_DESTROYING"
  | destroyed => "INSTANCE_STATE_DESTROYED"
  | failed => "INSTANCE_STATE_FAILED"

def debug : InstanceState → String
  | unspecified => "Unspecified"
  | creating => "Creating"
  | created => "Created"
  | starting => "Starting"
  | running => "Running"
  | checkpointing => "Checkpointing"
  | pausing => "Pausing"
  | paused => "Paused"
  | resuming => "Resuming"
  | stopping => "Stopping"
  | stopped => "Stopped"
  | destroying => "Destroying"
  | destroyed => "Destroyed"
  | failed => "Failed"

/-- Legal transitions other than destroying and failing. -/
def transitions : List (InstanceState × InstanceState) :=
  [(creating, created), (created, starting), (starting, running), (running, checkpointing),
    (checkpointing, running), (running, pausing), (pausing, paused), (paused, resuming),
    (resuming, running), (running, stopping), (stopping, stopped), (stopped, starting)]

/-- States an instance may only be in while an operation is executing. -/
def isTransitional : InstanceState → Bool
  | creating | starting | checkpointing | pausing | resuming | stopping | destroying => true
  | _ => false

/-- States an instance never leaves under its own power. -/
def isTerminal : InstanceState → Bool
  | destroyed | failed => true
  | _ => false

/-- Destroy is legal from any state but `destroyed`, and any transitional state may fail. -/
def canTransition (source target : InstanceState) : Bool :=
  if target = destroying ∨ target = destroyed then source ≠ destroyed
  else if target = failed then source.isTransitional
  else (source, target) ∈ transitions

end InstanceState

namespace OperationState

def asStrName : OperationState → String
  | unspecified => "OPERATION_STATE_UNSPECIFIED"
  | queued => "OPERATION_STATE_QUEUED"
  | running => "OPERATION_STATE_RUNNING"
  | awaitingInput => "OPERATION_STATE_AWAITING_INPUT"
  | done => "OPERATION_STATE_DONE"
  | failed => "OPERATION_STATE_FAILED"
  | canceled => "OPERATION_STATE_CANCELED"

def transitions : List (OperationState × OperationState) :=
  [(queued, running), (running, awaitingInput), (awaitingInput, running)]

/-- An operation that has not settled, and therefore still owns its instance. -/
def isInFlight : OperationState → Bool
  | queued | running | awaitingInput => true
  | _ => false

def isSettled : OperationState → Bool
  | done | failed | canceled => true
  | _ => false

/-- Any in-flight operation may settle, and settling is final. -/
def canTransition (source target : OperationState) : Bool :=
  if source = unspecified ∨ target = unspecified then false
  else if source.isSettled then false
  else if target.isSettled then true
  else (source, target) ∈ transitions

theorem canTransition_inFlight {source target : OperationState}
    (legal : source.canTransition target = true) : source.isInFlight = true := by
  cases source <;> cases target <;> first | rfl | exact absurd legal (by decide)

end OperationState

end Barista.Node
