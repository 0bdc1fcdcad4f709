import Barista.Node.Fleet

/-!
Contract: the reconciler's fleet phase, as programs of the node.

One pass renews every held lease, fences what the bucket refused, releases what the
fleet no longer desires, then acquires and realises the rest. Every write that is
fenced by a version happens under `lease_writes`; the values it writes may have been
read before the lock was taken, exactly where the code reads them.

Owns: `pass`, `releaseSweep`, `recover`, the fences, and the vanished-sandbox
reconciler.
-/

namespace Barista.Node

open Foundation Fleet

structure PassReport where
  renewed : Nat := 0
  fenced : Nat := 0
  acquired : Nat := 0
  materialised : Nat := 0
  heldWithoutMaterialising : Nat := 0
  refused : Nat := 0
  released : Nat := 0
  superseded : Nat := 0
  backendUnavailable : Bool := false
deriving DecidableEq, Repr

def PassReport.unavailable (report : PassReport) : PassReport :=
  { report with backendUnavailable := true }

/-! ### Fences -/

/-- The key of a fence's stop: the session and the instance, not the moment. -/
def fenceKey (name instanceId : String) : String := s!"fence-{name}-{instanceId}"

def selfFence (agent : Agent) (name instanceId : String) : NodeProg Unit := do
  Events.fenced instanceId (s!"session '{name}' is owned by another node now; this node stopped " ++
    "its workload. Two running processes for one single-writer session is the split-brain the " ++
    "session model forbids, so the losing side stops rather than waiting to be told.")
  if instanceId = "" then
    Events.degradation "" ""
      (s!"session '{name}' was fenced but its lease named no instance, so " ++
      "no workload could be stopped. If one is running for this session it is now unowned; check " ++
      "the node's instances against the fleet's desired state.")
  else
    let _ ← submit agent .stop instanceId (fenceKey name instanceId) (.stop 5)

/-- Observed non-running. An instance that is absent, or cannot be read, counts as stopped. -/
def observedStopped : Except String (Option InstanceRow) → Bool
  | .ok (some row) => row.state = .stopped ∨ row.state = .destroyed ∨ row.state = .paused
  | _ => true

/-- Stop a fenced workload, and forget the lease only once it is observed stopped. -/
def fenceAndConfirm (agent : Agent) (name instanceId : String) : NodeProg Unit := do
  let _ ← query (.markLeaseFencing name)
  selfFence agent name instanceId
  if instanceId = "" then
    let _ ← query (.releaseLease name)
  else
    let found ← query (.getInstance instanceId)
    if observedStopped found then
      let _ ← query (.releaseLease name)

def fenceAll (agent : Agent) : List (String × String) → NodeProg Unit
  | [] => return ()
  | (name, instanceId) :: rest => do
      fenceAndConfirm agent name instanceId
      fenceAll agent rest

/-! ### Renewal -/

structure Renewals where
  report : PassReport
  fencedNames : List (String × String)
  reachedBucket : Bool

def Renewals.none : Renewals := ⟨{}, [], false⟩

/-- Renew one lease at the version just read, and keep or drop it by the answer. -/
def renewHeld (agent : Agent) (name : String) (current : Held) (acc : Renewals) :
    NodeProg Renewals := do
  let state ← leaseStateFor current.lease.instanceId
  let nowMs ← clock
  match ← onBucket (.renew current) (renew leaseCodec name current agent.timing nowMs state) with
  | .ok (.held next) => do
      hold name next
      return { acc with
        report := { acc.report with renewed := acc.report.renewed + 1 }
        reachedBucket := true }
  | .ok .fenced => do
      forget name
      return ⟨{ acc.report with fenced := acc.report.fenced + 1 },
        acc.fencedNames ++ [(name, current.lease.instanceId)], true⟩
  | .error _ => return { acc with report := acc.report.unavailable }

def renewOne (agent : Agent) (name : String) (acc : Renewals) : NodeProg Renewals :=
  locked do
    match (← readHeld)[name]? with
    | .none => return acc
    | some current => renewHeld agent name current acc

def renewAll (agent : Agent) : List String → Renewals → NodeProg Renewals
  | [], acc => return acc
  | name :: rest, acc => do renewAll agent rest (← renewOne agent name acc)

def announceOutage (agent : Agent) : List (String × Held) → NodeProg Unit
  | [] => return ()
  | (name, held) :: rest => do
      Events.degradation held.lease.instanceId ""
        ("the coordination bucket has been unreachable " ++
        s!"for longer than the lease TTL ({agent.timing.ttl.nanos / 1000000000}s): this node's " ++
        s!"lease on session '{name}' may have expired, and another node may own the name now. " ++
        "The session is kept running here — coordination unavailability is non-destructive by " ++
        "ratified policy — so if another node did take over, two writers may run until " ++
        "connectivity returns and this node fences itself at first contact.")
      announceOutage agent rest

/-- A partition that outlasts the TTL is said out loud, once an episode. -/
def reportOutage (agent : Agent) (reachedBucket : Bool) : NodeProg Unit := do
  let due ← perform (.outageAfterRenewals reachedBucket agent.timing.ttl)
  if due = true then
    let held ← readHeld
    announceOutage agent held.toList
  else return ()

/-! ### Release -/

def reacquireOne (agent : Agent) (name : String) : NodeProg (Except FleetError Acquired) :=
  locked do
    let nowMs ← clock
    match ← onBucket .acquire
        (acquire leaseCodec name agent.nodeId agent.advertise agent.timing nowMs) with
    | .ok (.held held) => do
        hold name held
        return .ok (.held held)
    | outcome => return outcome

/-- Add to the candidates the holds whose desired record is gone and which only the journal
remembers. `none` when the bucket could not be reached. -/
def reacquire (agent : Agent) (desired : List String) :
    List HeldLeaseRow → List (String × Held) → NodeProg (Option (List (String × Held)))
  | [], candidates => return some candidates
  | row :: rest, candidates =>
    if row.fencing ∨ row.name ∈ desired ∨ row.name ∈ candidates.map Prod.fst then
      reacquire agent desired rest candidates
    else do
      match ← reacquireOne agent row.name with
      | .ok (.held held) => reacquire agent desired rest (candidates ++ [(row.name, held)])
      | .ok _ => reacquire agent desired rest candidates
      | .error _ => return none

def journalState (instanceId : String) : NodeProg (Except String (Option InstanceState)) := do
  if instanceId = "" then return .ok none
  else
    match ← query (.getInstance instanceId) with
    | .ok row => return .ok (row.map InstanceRow.state)
    | .error cause => return .error cause

def deleteKey (name : String) (epoch : Nat) (instanceId : String) : String :=
  s!"fleet-delete-{name}-{epoch}-{instanceId}"

def releaseHeld (name : String) (held : Held) (report : PassReport) : NodeProg PassReport :=
  locked do
    match ← onBucket (.release held) (release leaseCodec name held) with
    | .ok () => do
        let _ ← query (.releaseLease name)
        forget name
        return { report with released := report.released + 1 }
    | .error _ => return report.unavailable

/-- Converge one hold: tear its workload down, or release it once that is gone. -/
def sweepOne (agent : Agent) (desired : List String) (name : String) (held : Held)
    (report : PassReport) : NodeProg PassReport := do
  match ← journalState held.lease.instanceId with
  | .error _ => return report
  | .ok instance_ =>
    match releaseIntent (name ∈ desired) false instance_ with
    | .keep => return report
    | .destroy => do
        let _ ← submit agent .destroy held.lease.instanceId
          (deleteKey name held.lease.epoch held.lease.instanceId) (.destroy false)
        return report
    | .release => releaseHeld name held report

def sweepAll (agent : Agent) (desired : List String) :
    List (String × Held) → PassReport → NodeProg PassReport
  | [], report => return report
  | (name, held) :: rest, report => do
      sweepAll agent desired rest (← sweepOne agent desired name held report)

def releaseSweep (agent : Agent) (desired : List String) (report : PassReport) :
    NodeProg PassReport := do
  let held ← readHeld
  let journaled ← query .heldLeases
  match ← reacquire agent desired (journaled.toOption.getD []) held.toList with
  | none => return report.unavailable
  | some candidates => sweepAll agent desired candidates report

/-! ### Acquisition and realisation -/

inductive Custody where
  | ours (held : Held) (report : PassReport)
  | notOurs (report : PassReport)
  | unavailable (report : PassReport)

def acquireRecord (agent : Agent) (name : String) (report : PassReport) : NodeProg Custody :=
  locked do
    let nowMs ← clock
    match ← onBucket .acquire
        (acquire leaseCodec name agent.nodeId agent.advertise agent.timing nowMs) with
    | .ok (.held held) => do
        let report := { report with acquired := report.acquired + 1 }
        match ← query (.holdLease name held.lease.epoch held.lease.instanceId) with
        | .error _ => do
            let _ ← onBucket (.giveBack held) (release leaseCodec name held)
            return .notOurs report
        | .ok () => do
            hold name held
            return .ours held report
    | .ok _ => return .notOurs report
    | .error _ => return .unavailable report.unavailable

/-- The verb that advances an instance from where it is, if any does. -/
def materialiseVerb (spec : InstanceSpec) (coldBoot : Bool) :
    Option InstanceState → Option (OpKind × OpPayload × String)
  | none => some (.create, .create spec, "create")
  | some .paused =>
    if coldBoot then some (.start, .start, "start")
    else some (.resume, .resume none false, "resume")
  | some .created | some .stopped => some (.start, .start, "start")
  | some _ => none

def materialiseKey (verb name : String) (epoch : Nat) (instanceId : String) : String :=
  s!"fleet-{verb}-{name}-{epoch}-{instanceId}"

/-- What is said of a session that was started cold on another node than its last. -/
def coldBooted (name : String) : String :=
  s!"session '{name}' was taken over from another node and cold-booted: its " ++
    "in-memory state lived on the previous owner's disk and is not reachable from " ++
    "here. Set on_owner_loss=hold on its desired record if that is not acceptable."

def materialise (agent : Agent) (name : String) (spec : InstanceSpec) (epoch : Nat)
    (coldBoot : Bool) : NodeProg Bool := do
  let known ← query (.getInstance spec.instanceId)
  match materialiseVerb spec coldBoot (known.toOption.join.map InstanceRow.state) with
  | none => return false
  | some (kind, payload, verb) =>
    match ← submit agent kind spec.instanceId
        (materialiseKey verb name epoch spec.instanceId) payload with
    | .error _ => return false
    | .ok _ => do
        whenever (coldBoot ∧ verb = "start")
          (Events.degradation spec.instanceId "" (coldBooted name))
        return true

/-- Record the realising instance on the lease, at the version of a copy of it. `error` ends
the record's turn. -/
def nameInstance (agent : Agent) (name : String) (held : Held) (instanceId recordId : String)
    (realising : Realising) (report : PassReport) : NodeProg (Except PassReport PassReport) :=
  locked do
    match ← onBucket (.setInstance held) (setInstance leaseCodec name held instanceId) with
    | .ok (.held next) => do
        let _ ← query (.setLeaseInstance name instanceId)
        hold name next
        if realising = .fresh then
          Events.degradation instanceId "" (s!"session '{name}' is being realised by a new " ++
            s!"instance {instanceId}: the instance its desired record names ({recordId}) is " ++
            "terminal on this node, and a terminal instance never runs again. The lease now " ++
            "names the live one, which is where the fleet reads a session's instance from; the " ++
            "record still names the dead one until its author rewrites it.")
          return .ok { report with superseded := report.superseded + 1 }
        else return .ok report
    | .ok .fenced => do
        forget name
        selfFence agent name held.lease.instanceId
        return .error { report with fenced := report.fenced + 1 }
    | .error _ => return .error report

def ensureNamed (agent : Agent) (name : String) (held : Held) (instanceId recordId : String)
    (realising : Realising) (report : PassReport) : NodeProg (Except PassReport PassReport) :=
  if held.lease.instanceId = instanceId then .pure (.ok report)
  else nameInstance agent name held instanceId recordId realising report

/-- Materialise a session, once its lease names the instance that realises it. -/
def materialiseNamed (agent : Agent) (name : String) (held : Held) (spec : InstanceSpec)
    (recordId : String) (realising : Realising) (coldBoot : Bool) (report : PassReport) :
    NodeProg PassReport := do
  match ← ensureNamed agent name held spec.instanceId recordId realising report with
  | .error report => return report
  | .ok report => do
      if ← materialise agent name spec held.lease.epoch coldBoot then
        return { report with materialised := report.materialised + 1 }
      else return report

def holdWithout (holdsReported : List String) (name instanceId : String) : NodeProg Unit := do
  if name ∈ holdsReported then return ()
  else do
    perform (.reportHold name)
    Events.degradation instanceId "" (s!"took over session '{name}' but did not start it: its " ++
      "desired record says on_owner_loss=hold, and the previous owner's memory is not reachable " ++
      "from this node. The session stays as its last owner left it until an operator decides.")

/-- A paused session is realised: waking it is not the reconciler's to do. -/
def realisedLocally : Except String (Option InstanceRow) → Bool
  | .ok (some row) => row.state = .running ∨ row.state = .paused
  | _ => false

/-- Realise a session with the spec that was chosen for it. -/
def realiseSpec (agent : Agent) (holdsReported : List String) (want : Desired) (held : Held)
    (spec : InstanceSpec) (recordId : String) (realising : Realising) (report : PassReport) :
    NodeProg PassReport := do
  match admitSpec agent spec false with
  | .error refusal => do
      Events.degradation spec.instanceId "" (s!"desired session '{want.name}' was not started: " ++
        s!"{refusal.message}. The lease is held so no other node materialises it either; fix the " ++
        "desired record.")
      return { report with refused := report.refused + 1 }
  | .ok () =>
    let realised ← query (.getInstance spec.instanceId)
    match intentFor want.onOwnerLoss (1 < held.lease.epoch) (realisedLocally realised) with
    | .alreadyRunning | .notOurs => return report
    | .holdWithoutMaterialising => do
        holdWithout holdsReported want.name spec.instanceId
        return { report with heldWithoutMaterialising := report.heldWithoutMaterialising + 1 }
    | .materialise coldBoot =>
      materialiseNamed agent want.name held spec recordId realising coldBoot report

def realisingId (spec : InstanceSpec) (held : Held) : Realising → NodeProg String
  | .record => return spec.instanceId
  | .lease => return held.lease.instanceId
  | .fresh => freshUlid

def realise (agent : Agent) (holdsReported : List String) (want : Desired) (held : Held)
    (report : PassReport) : NodeProg PassReport := do
  match want.decode agent with
  | .error _ => return report
  | .ok spec => do
      let record ← journalState spec.instanceId
      let lease ← journalState held.lease.instanceId
      match record, lease with
      | .ok recordState, .ok leaseState => do
          let realising := realisingInstance recordState
            (held.lease.instanceId ≠ "" ∧ held.lease.instanceId ≠ spec.instanceId) leaseState
          let id ← realisingId spec held realising
          realiseSpec agent holdsReported want held { spec with instanceId := id }
            spec.instanceId realising report
      | _, _ => return report

/-- A name already held is looked at again; any other is tried. -/
def custodyOf (agent : Agent) (name : String) (report : PassReport) : NodeProg Custody := do
  match (← readHeld)[name]? with
  | some held => return .ours held report
  | none => acquireRecord agent name report

def takeTurn (agent : Agent) (holdsReported : List String) (want : Desired)
    (report : PassReport) : NodeProg (PassReport × Bool) := do
  match ← custodyOf agent want.name report with
  | .ours held report => return (← realise agent holdsReported want held report, true)
  | .notOurs report => return (report, true)
  | .unavailable report => return (report, false)

def realiseAll (agent : Agent) (holdsReported : List String) :
    List Desired → PassReport → NodeProg PassReport
  | [], report => return report
  | want :: rest, report => do
      let (report, goOn) ← takeTurn agent holdsReported want report
      if goOn then realiseAll agent holdsReported rest report else return report

/-- Act on a listing that succeeded: release what is gone, then realise what is there. -/
def actOn (agent : Agent) (holdsReported : List String) (listing : DesiredSet)
    (report : PassReport) : NodeProg PassReport := do
  let report ← releaseSweep agent listing.names report
  realiseAll agent holdsReported listing.records report

def converge (agent : Agent) (report : PassReport) : NodeProg PassReport := do
  if report.backendUnavailable then return report
  else
    let holdsReported ← perform .holdsReported
    match ← desired agent with
    | .error _ => return report.unavailable
    | .ok listing => actOn agent holdsReported listing report

def pass (agent : Agent) : NodeProg PassReport := do
  let names := (← readHeld).keys
  let renewals ← renewAll agent names .none
  whenever (names ≠ []) (reportOutage agent renewals.reachedBucket)
  fenceAll agent renewals.fencedNames
  converge agent renewals.report

/-! ### Recovery -/

/-- Reconcile one remembered lease with the bucket. `false` when the bucket gave no answer,
which ends the recovery. -/
def recoverRow (agent : Agent) (row : HeldLeaseRow) : NodeProg Bool := do
  match ← onBucket .resolve (resolve leaseCodec row.name) with
  | .ok (some lease) =>
    if lease.owner = agent.nodeId ∧ lease.epoch = row.epoch then return true
    else do
      fenceAndConfirm agent row.name row.instanceId
      return true
  | .ok none => do
      fenceAndConfirm agent row.name row.instanceId
      return true
  | .error _ => return false

def recoverAll (agent : Agent) : List HeldLeaseRow → NodeProg Unit
  | [] => return ()
  | row :: rest => do
      if ← recoverRow agent row then recoverAll agent rest else return ()

/-- Reconcile what this node believed it owned with what the bucket says, before any
acquisition. -/
def recover (agent : Agent) : NodeProg Unit := do
  match ← query .heldLeases with
  | .error _ => return ()
  | .ok rows => recoverAll agent rows

/-! ### Vanished sandboxes -/

def vanishedSandboxThreshold : Nat := 3

/-- Fail an instance whose sandbox is gone. `false` when the journal would not take it. -/
def failVanished (id : String) : NodeProg Bool := do
  match ← setInstanceState id .failed with
  | .error _ => return false
  | .ok () => do
      Events.stateChanged id "" .failed none
      Events.degradation id "" ("the substrate sandbox for this RUNNING instance has vanished " ++
        "(absent across the reconcile debounce window); it was reconciled to FAILED so the node " ++
        "does not report a session as running when its sandbox is gone")
      return true

/-- Advance the debounce counts, failing the instances that reach the threshold. -/
def countVanished (present : List String) :
    List String → List (String × Nat) → NodeProg (List String × List (String × Nat))
  | [], counts => return ([], counts)
  | id :: rest, counts => do
      let others := counts.filter fun entry => entry.1 ≠ id
      let absences := ((counts.lookup id).getD 0) + 1
      if id ∈ present then countVanished present rest others
      else if absences < vanishedSandboxThreshold then
        countVanished present rest ((id, absences) :: others)
      else do
        let gone ← failVanished id
        let (failed, counts) ← countVanished present rest others
        return (if gone then id :: failed else failed, counts)

def stampAll : List String → NodeProg Unit
  | [] => return ()
  | id :: rest => do
      stampLeaseState id
      stampAll rest

/-- Fail the running instances whose sandbox has been absent for the whole debounce window,
then stamp their leases. -/
def reconcileVanished (agent : Agent) : NodeProg Unit := do
  if agent.enumeratesSandboxes = false then return ()
  else match ← runtime .listSandboxes with
    | .error _ => return ()
    | .ok present =>
      match ← query .listInstances with
      | .error _ => return ()
      | .ok rows => do
          let running := (rows.filter fun row => row.state = .running).map InstanceRow.instanceId
          let counts ← perform .vanishedCounts
          let (failed, counts) ← countVanished present running
            (counts.filter fun entry => entry.1 ∈ running)
          perform (.setVanishedCounts counts)
          stampAll failed

/-! ### Ticks and boot -/

def tick (agent : Agent) : NodeProg Unit := do
  perform .beginTick
  reconcileVanished agent
  let joined ← inFleet
  whenever joined (discard (pass agent))
  perform .endTick

/-- Crash recovery, fleet recovery, and joining the fleet. A recovery the journal refuses
ends the process. -/
def boot (agent : Agent) (failed : List OperationRow) : NodeProg Unit := do
  match ← recoverOps failed with
  | .error _ => return ()
  | .ok () => do
      recover agent
      perform .join
      perform .endTick

end Barista.Node
