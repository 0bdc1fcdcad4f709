import Barista.Node.Execute

/-!
Contract: the phases of the reconciler that act on the node's own deadlines.

A tick reads the registry once. Due wakes are fired over every row, expired leases are
enforced over the running ones, and the guests of running instances are probed. A deadline
is consumed by the transaction that journals its operation, or, where there is nothing to
submit, on its own. Not here: the sweeps, which touch only the substrate and the event log,
and the fleet phase.

Owns: wakes, TTL expiry, readiness, idle declarations, and the renewal of a lease by activity.
-/

namespace Barista.Node

open Foundation Fleet

/-! ### What an expiry does -/

/-- What a `ttl_action` resolves to on this runtime. -/
inductive Resolved where
  | stop (degraded : Option String)
  | destroy
  | pause
deriving DecidableEq, Repr

namespace Resolved

def debug : Resolved → String
  | stop none => "Stop \x7b degraded: None \x7d"
  | stop (some message) => "Stop \x7b degraded: Some(" ++ quoted message ++ ") \x7d"
  | destroy => "Destroy"
  | pause => "Pause"

def ttlStopGraceSeconds : Nat := 5

def payload : Resolved → OpPayload
  | stop _ => .stop ttlStopGraceSeconds
  | destroy => .destroy true
  | pause => .pause false

def degraded : Resolved → Option String
  | stop message => message
  | destroy | pause => none

def announce (resolved : Resolved) (id : String) : List EventRow :=
  match resolved.degraded with
  | some message => [Events.event .degradation id "" message]
  | none => []

end Resolved

def resolveTtlAction (action : TtlAction) (runtimeName : String) (memorySnapshot : Bool) :
    Resolved :=
  match action with
  | .destroy => .destroy
  | .stop => .stop none
  | .pause | .unspecified =>
    if memorySnapshot then .pause
    else .stop (some (s!"ttl_action PAUSE→STOP: runtime '{runtimeName}' has no memory_snapshot " ++
      "capability, so the session's memory cannot be preserved"))

/-! ### TTL expiry -/

def ttlKey (id : String) (deadlineMs : Int) : String := s!"ttl:{id}:{deadlineMs}"

/-- Submit an action whose deadline is consumed with it. A conflict is retried by the next tick;
any other refusal is announced. -/
def fireDeadline (agent : Agent) (id key : String) (payload : OpPayload) (claim : Claim)
    (announce : String → List EventRow) (failed : SubmitError → String) : NodeProg Unit := do
  match ← submitClaiming agent payload.kind id key payload (some claim) announce with
  | .ok _ => return ()
  | .error refusal =>
    if refusal.reason = .concurrentOperation then return ()
    else Events.degradation id "" (failed refusal)

def enforceTtl (agent : Agent) (row : InstanceRow) : NodeProg Unit := do
  match row.ttlDeadlineMs with
  | none => return ()
  | some deadline =>
    if (← clock) < deadline then return ()
    else
      let action := row.spec.ttlAction
      let resolution := resolveTtlAction action agent.runtimeName agent.memorySnapshot
      fireDeadline agent row.instanceId (ttlKey row.instanceId deadline) resolution.payload
        (.ttlExpiry deadline) (fun _ => resolution.announce row.instanceId) fun refusal =>
          s!"TTL expired and its {action.debug} action could not be submitted " ++
            s!"({refusal.display}); it will be retried on the next tick"

/-! ### Wakes -/

def wakeKey (id : String) (wakeAtMs : Int) : String := s!"wake-{id}-{wakeAtMs}"

inductive WakeAction where
  | submit (payload : OpPayload) (kind verb : String)
  /-- Nothing to submit: the session is awake, or never will be. -/
  | clear (note : String)
  /-- Mid-transition: left armed. -/
  | defer_

def wakeAction (state : InstanceState) : WakeAction :=
  if state = .paused then .submit (.resume none false) "Resume" "resumed"
  else if state = .stopped then .submit .start "Start" "started"
  else if state = .running then
    .clear "wake fired and the session was already RUNNING; no operation was submitted"
  else if state.isTerminal then
    .clear (s!"wake fired on a {state.debug} instance, which can never be woken; the alarm was " ++
      "cleared and nothing was submitted")
  else .defer_

def clearWake (id : String) (wakeAt : Int) (note : String) : NodeProg Unit := do
  match ← query (.claimWake id wakeAt) with
  | .ok true => Events.record (Events.wakeFired id "" note)
  | _ => return ()

def fireDueWake (agent : Agent) (row : InstanceRow) : NodeProg Unit := do
  match row.wakeAtMs with
  | none => return ()
  | some wakeAt =>
    if (← clock) < wakeAt then return ()
    else match wakeAction row.state with
      | .defer_ => return ()
      | .clear note => clearWake row.instanceId wakeAt note
      | .submit payload kind verb =>
        fireDeadline agent row.instanceId (wakeKey row.instanceId wakeAt) payload (.wake wakeAt)
          (fun opId => [Events.wakeFired row.instanceId opId
            s!"wake fired: the session was {row.state.debug} and is being {verb}"])
          fun refusal =>
            s!"a wake alarm came due and its {kind} could not be submitted " ++
              s!"({refusal.display}); the session is still asleep and the alarm will be retried " ++
              "on the next tick"

def forRows (phase : InstanceRow → NodeProg Unit) : List InstanceRow → NodeProg Unit
  | [] => return ()
  | row :: rest => do
      phase row
      forRows phase rest

/-- The start of a tick: one read of the registry, the wakes, then the leases of the instances
that were running. -/
def scan (agent : Agent) : NodeProg Unit := do
  match ← query .listInstances with
  | .error _ => return ()
  | .ok rows => do
      forRows (fireDueWake agent) rows
      forRows (enforceTtl agent) (rows.filter fun row => row.state = .running)

/-! ### Readiness and idle declarations -/

def saturateI64 (value : Int) : Int := max (-2 ^ 63) (min (2 ^ 63 - 1) value)

def tsMs (at_ : Timestamp) : Int :=
  saturateI64 (saturateI64 (at_.seconds * 1000) + at_.nanos.tdiv 1000000)

def idleKey (id : String) (declaredMs : Int) : String := s!"idle:{id}:{declaredMs}"

/-- The declaration to act on: armed, newer than the run's epoch on the row that was read, and
newer than the last user activity. -/
def idleDeclaration (row : InstanceRow) (health : Health) : Option (TtlAction × Int) :=
  match row.spec.idleAction, health.idleDeclared with
  | some action, some declared =>
    if tsMs declared ≤ row.runEpochMs.getD 0 then none
    else if tsMs declared ≤ (health.lastUserActivity.map tsMs).getD 0 then none
    else some (action, tsMs declared)
  | _, _ => none

def enforceIdle (agent : Agent) (row : InstanceRow) (health : Health) : NodeProg Unit := do
  match idleDeclaration row health with
  | none => return ()
  | some (action, declaredMs) =>
    let resolution := resolveTtlAction action agent.runtimeName agent.memorySnapshot
    let announce (opId : String) : List EventRow :=
      resolution.announce row.instanceId ++ [Events.idleFired row.instanceId opId
        s!"workload declared idle; acting with {resolution.debug}"]
    discard (submitClaiming agent resolution.payload.kind row.instanceId
      (idleKey row.instanceId declaredMs) resolution.payload none announce)

/-- Ask the guest for its verdict and mirror it onto the instance. A probe that times out is one
the guest did not answer. -/
def probeReadiness (agent : Agent) (row : InstanceRow) : NodeProg Unit := do
  match ← beyond (.connectGuest row.instanceId) with
  | .error _ => return ()
  | .ok () =>
    match ← beyond (.health row.instanceId) with
    | .error _ => return ()
    | .ok health => do
        let changed ← query (.setInstanceReady row.instanceId health.ready)
        whenever (changed.toOption = some true)
          (Events.readyChanged row.instanceId health.ready)
        enforceIdle agent row health

/-- A tick's probe of one instance, with the row its read of the registry found running. -/
def probe (agent : Agent) (id : String) : NodeProg Unit := do
  match ← query (.getInstance id) with
  | .ok (some row) => whenever (row.state = .running) (probeReadiness agent row)
  | _ => return ()

/-! ### Activity -/

def noteActivity (id : String) : NodeProg Unit := do
  match ← query (.getInstance id) with
  | .ok (some row) =>
    if row.spec.ttlSeconds = 0 then return ()
    else do
      let deadline := ttlDeadlineMs row.spec.ttlSeconds (← clock)
      discard (query (.setTtlDeadline id (some deadline)))
  | _ => return ()

end Barista.Node
