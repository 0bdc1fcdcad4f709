import Barista.Node.PauseResume

/-!
Contract: which memory image a resume in place restores.

The substrate keeps one image for a paused instance, the one its last standby left. The journal
knows it only through the pointer at the instance's latest snapshot, which every recorded snapshot
moves and every deletion of its row clears. The two agree while an instance is paused as long as
each pause records its capture, under an id of its own, and no snapshot of a paused instance is
recorded. The node may be upgraded whenever it is down.

Owns: histories of a node with upgrades, the images they leave on standby, and what the journal
knows of them.
-/

namespace Barista.Node

open Foundation Fleet
open Prog (After Ran)

/-! ### Steps that lead to a paused instance -/

section Steps

variable {agent : Agent} {etags : LeaseVersioning} {system after : System}
  {label : Label} {id : String}

variable {recorded : InstanceState}

theorem planTransition_paused {kind : OpKind} {source : InstanceState}
    (planned : planTransition kind kind.states.1 source = some recorded)
    (rests : recorded = .paused ∨ kind = .resume) : source = .paused := by
  unfold planTransition at planned
  split at planned
  · next deletes =>
      cases planned
      rcases rests with paused | resumes
      · exact paused
      · cases deletes.symm.trans resumes
  · split at planned
    · next found => exact found.2
    · split at planned
      · next legal =>
          obtain rfl := Option.some.inj planned
          rcases rests with paused | rfl
          · cases kind <;> cases paused
          · cases source <;> first | rfl | cases legal
      · cases planned

theorem settledState_paused {executor : Executor} (planned : Planned executor)
    {outcome : Except (ErrorReason × String) Unit}
    (paused : settledState executor.kind executor.recorded outcome = .paused) :
    executor.recorded = .paused ∨ (executor.kind = .pause ∧ outcome = .ok ()) := by
  by_cases deletes : executor.kind = .deleteSnapshot
  · rw [deletes, settledState_deleteSnapshot] at paused
    exact .inl paused
  · rcases planned_recorded planned deletes with own | ⟨-, recorded⟩
    · rw [own] at paused
      right
      generalize executor.kind = kind at paused
      cases kind <;> cases outcome <;>
        simp_all [settledState, successState, OpKind.states, OpKind.touchesInstanceState]
    · exact .inl recorded

theorem boot_unpaused (failed : List OperationRow) : (boot agent failed).Emits fun act : NodeAct =>
      ∀ id, act ≠ .journal (.setInstanceState id .paused) := by
  have covers : Covers agent .booter (.ofLeases fun _ _ => True) fun act : NodeAct =>
      ∀ id, act ≠ .journal (.setInstanceState id .paused) :=
    { aside := by
        rintro _ ⟨loose, -⟩ id rfl
        cases loose
      custodial := by
        rintro _ custodial id rfl
        cases custodial
      spawn := fun _ _ => nofun
      submit := fun _ _ _ _ _ => nofun
      fail := fun _ _ _ => nofun }
  refine covers.emits_boot (fun _ _ => trivial) (fun _ _ => nofun) (fun _ _ => nofun) ?_
    (fun _ => nofun) (fun _ => nofun) failed
  rintro id state rests other same
  cases same
  simp at rests

theorem getSnapshot_mem {journal : Journal} {row : SnapshotRow}
    (member : row ∈ journal.snapshots.rows) : journal.getSnapshot row.snapshotId = some row := by
  cases found : journal.getSnapshot row.snapshotId with
  | none =>
    have unnamed := Table.find?_none found row member
    simp at unnamed
  | some other =>
    obtain ⟨otherMember, named⟩ := Table.mem_of_find? found
    rw [Table.eq_of_column List.mem_cons_self otherMember member (beq_iff_eq.mp named)]

theorem pointer_cases (next : System.next agent etags system label = some after)
    {old : InstanceRow} (found : system.world.journal.getInstance id = some old) :
    ∃ new, after.world.journal.getInstance id = some new ∧ new.spec = old.spec ∧
      (new.latestSnapshotId = old.latestSnapshotId ∨
        (∃ record, system.made label = some (.insertSnapshot record) ∧ record.instanceId = id) ∨
        (new.latestSnapshotId = "" ∧ ∀ record ∈ after.world.journal.snapshots.rows,
          record.snapshotId ≠ old.latestSnapshotId)) := by
  have ownId := Journal.getInstance_named found
  rcases row_cases next id with same | ⟨query, nowMs, answer, old', new, made, found',
    moved, touches⟩ |
    ⟨_, _, _, _, -, -, -, absent, -⟩
  · exact ⟨old, same.trans found, rfl, .inl rfl⟩
  · cases found.symm.trans found'
    have left := Query.rewritten touches
    refine ⟨new, moved, left.spec, left.pointer.imp_right (Or.imp ?_ ?_)⟩
    · rintro ⟨record, rfl, own, -⟩
      exact ⟨record, made, own.symm.trans ownId⟩
    · rintro ⟨rfl, cleared⟩
      refine ⟨cleared, fun record member same => ?_⟩
      obtain ⟨_, ⟨_, ran⟩ | ⟨⟨_, refused⟩, -⟩⟩ := System.journal_made made next
      · obtain ⟨-, written⟩ := Prod.mk.inj (Except.ok.inj ran)
        rw [← written] at member
        have kept := (Table.mem_delete.mp member).2
        simp [same] at kept
      · cases refused
  · cases found.symm.trans absent

theorem recorded_kept (next : System.next agent etags system label = some after)
    {op : OperationRow} (member : op ∈ system.world.journal.operations.rows)
    (noted : after.world.aux.recorded op.opId = some recorded) :
    system.world.aux.recorded op.opId = some recorded := by
  cases made : system.made label with
  | none => exact System.recorded_unmade made next noted
  | some query =>
    obtain ⟨index, nowMs, ⟨answer, journal, ran, written⟩ | ⟨-, same⟩⟩ :=
      System.world_made made next
    · rw [written] at noted
      cases query with
      | submitAtomically args =>
        cases answer with
        | journaled entered =>
          have other := (Journal.submitAtomically_journaled ran).2.2.2.1 op member
          simpa [Auxiliary.query, Auxiliary.record, Auxiliary.putInCharge,
            Function.update_of_ne other] using noted
        | _ => exact noted
      | _ => exact noted
    · rwa [same] at noted

theorem journaled_noted (next : System.next agent etags system label = some after)
    {args : SubmitArgs} (journaled : system.journaled etags label = some (args, recorded)) :
    after.world.aux.recorded args.opId = some recorded := by
  unfold System.journaled at journaled
  split at journaled
  case h_2 => cases journaled
  next exchanged =>
  cases journaled
  obtain ⟨choice, rfl, role, continuation, world, found, executed⟩ :=
    System.exchanged_cases exchanged
  obtain ⟨_, _, _, _, _, located, performed, rfl⟩ := Pool.step_cases next
  cases found.symm.trans located
  cases executed.symm.trans performed
  rcases query_cases executed with ⟨_, refused, -⟩ | ⟨result, journal, answered, -, rfl⟩
  · cases refused
  · cases answered
    simp [Auxiliary.query, Auxiliary.record]

theorem journaled_paused {traces : Nat → NodeTrace}
    (accounted : Accounted agent etags system traces)
    (next : System.next agent etags system label = some after) {args : SubmitArgs}
    (journaled : system.journaled etags label = some (args, recorded))
    (rests : recorded = .paused ∨ args.kind = .resume) :
    system.world.journal.stateOf args.instanceId = some .paused := by
  obtain ⟨made, nowMs, submitted⟩ := System.journaled_cases next journaled
  obtain ⟨index, _, role, continuation, rfl, -, found⟩ := System.made_located made
  obtain ⟨_, _, payload, _, _, _, _, rfl, -⟩ := role_entrance (accounted.come found)
  obtain ⟨planned, -⟩ := Journal.submitAtomically_journaled submitted
  unfold Journal.plannedState at planned
  split at planned
  · cases planned
  · next spec creates _ =>
      cases planned
      cases payload <;> simp [submitArgs, createSpec, OpPayload.kind,
        OpKind.states] at creates rests
  · cases planned
  · next row _ present =>
      split at planned
      · next entered plan =>
          cases planned
          rw [Journal.stateOf, present, Option.map_some, planTransition_paused plan rests]
      · cases planned

end Steps

/-! ### Histories -/

/-- The memory image a standby left, with the keys in force when it was captured. -/
structure Image where
  instanceId : String
  snapshot : SnapshotInfo
  runtimeVersion : String
  cpuClass : String
  templateHash : String
deriving DecidableEq, Repr

/-- A row that records an image, under the keys it was captured with. -/
structure Image.Recorded (image : Image) (row : SnapshotRow) : Prop where
  snapshotId : row.snapshotId = image.snapshot.snapshotId
  instanceId : row.instanceId = image.instanceId
  kind : row.kind = image.snapshot.kind
  cpuClass : row.cpuClass = image.cpuClass
  runtimeBundleRef : row.runtimeBundleRef = image.runtimeVersion

/-- What happens to a node: a step of its system, or an upgrade of its runtime. -/
inductive Happening where
  | step (label : Label)
  | upgrade (runtimeVersion : String)

/-- A node, what its tasks have said and heard, and the images left on standby, latest first. -/
structure Deployed where
  agent : Agent
  system : System
  traces : Nat → NodeTrace
  images : List Image

namespace Deployed

def fresh (agent : Agent) : Deployed := ⟨agent, .initial, fun _ => [], []⟩

abbrev journal (node : Deployed) : Journal := node.system.world.journal

def captured (etags : LeaseVersioning) (node : Deployed) (label : Label) :
    Option Image :=
  match node.system.exchanged etags label with
  | some (_, ⟨.runtime (.pause id), .ok snapshot⟩) =>
    some ⟨id, snapshot, node.agent.runtimeVersion, node.agent.cpuClass,
      ((node.journal.getInstance id).map fun row => node.agent.templateHash row.spec).getD ""⟩
  | _ => none

def stepped (etags : LeaseVersioning) (node : Deployed) (label : Label)
    (after : System) : Deployed where
  agent := node.agent
  system := after
  traces := System.tracesAfter etags node.system label node.traces
  images := (node.captured etags label).toList ++ node.images

def upgraded (node : Deployed) (runtimeVersion : String) : Deployed :=
  { node with agent := { node.agent with runtimeVersion := runtimeVersion } }

def next (etags : LeaseVersioning) (node : Deployed) :
    Happening → Option Deployed
  | .step label =>
    (System.next node.agent etags node.system label).map (node.stepped etags label)
  | .upgrade runtimeVersion =>
    if node.system.world.stage = .down then some (node.upgraded runtimeVersion) else none

def reach (agent : Agent) (etags : LeaseVersioning)
    (history : List Happening) : Option Deployed :=
  run (next etags) (fresh agent) history

def standby (node : Deployed) (id : String) : Option Image :=
  node.images.find? fun image => image.instanceId = id

/-- Whether a snapshot may be recorded without coming between a paused instance and its image: the
record of a pause is journaled, an operation records no snapshot of an instance it found paused, an
imported row names no instance, and an id that stands for an image is recorded for that image
alone. -/
def Keeps (node : Deployed) (row : SnapshotRow) : Except String Unit → Option Role → Prop
  | .ok (), some (.executor executor) =>
    row.snapshotId ≠ "" ∧ row.instanceId ≠ "" ∧
      ¬ (executor.kind = .createSnapshot ∧ executor.recorded = .paused) ∧
      ∀ image ∈ node.images, image.snapshot.snapshotId = row.snapshotId →
        executor.kind = .pause ∧ image.instanceId = row.instanceId
  | .ok (), _ =>
    row.snapshotId ≠ "" ∧ node.journal.getInstance row.instanceId = none ∧
      ∀ image ∈ node.images, image.snapshot.snapshotId ≠ row.snapshotId
  | .error _, some (.executor executor) => executor.kind ≠ .pause
  | .error _, _ => True

instance (node : Deployed) (row : SnapshotRow) (answer : Except String Unit) (role : Option Role) :
    Decidable (node.Keeps row answer role) := by
  unfold Keeps
  split <;> infer_instance

def Orderly (etags : LeaseVersioning) (node : Deployed) : Happening → Prop
  | .step label =>
    match node.system.exchanged etags label with
    | some (index, ⟨.journal (.insertSnapshot row), answer⟩) =>
      node.Keeps row answer ((node.system.tasks[index]?).map Task.role)
    | _ => True
  | .upgrade _ => True

instance (etags : LeaseVersioning) (node : Deployed) (happening : Happening) :
    Decidable (node.Orderly etags happening) := by
  unfold Orderly
  split
  · split <;> infer_instance
  · infer_instance

/-! ### Captures and records of a step -/

section Steps

variable {etags : LeaseVersioning} {node : Deployed} {label : Label}
  {after : System}

variable {image : Image}

theorem captured_cases (captures : node.captured etags label = some image) :
    ∃ index choice role continuation, label = .deliver index choice ∧ node.system.tasks[index]? =
        some ⟨role, .step (.runtime (.pause image.instanceId)) continuation⟩ ∧
      node.system.exchanged etags label =
        some (index, ⟨.runtime (.pause image.instanceId), .ok image.snapshot⟩) ∧
      image.runtimeVersion = node.agent.runtimeVersion ∧ image.cpuClass = node.agent.cpuClass ∧
      image.templateHash = ((node.journal.getInstance image.instanceId).map fun row =>
        node.agent.templateHash row.spec).getD "" := by
  unfold captured at captures
  split at captures
  · next index id snapshot exchanged =>
      cases captures
      obtain ⟨choice, rfl, role, continuation, _, found, -⟩ := System.exchanged_cases exchanged
      exact ⟨index, choice, role, continuation, rfl, found, exchanged, rfl, rfl, rfl⟩
  · cases captures

theorem made_recorded {row : SnapshotRow}
    (made : node.system.made label = some (.insertSnapshot row))
    (next : System.next node.agent etags node.system label = some after) :
    ∃ index choice role continuation, label = .deliver index choice ∧ node.system.tasks[index]? =
        some ⟨role, .step (.journal (.insertSnapshot row)) continuation⟩ ∧
      node.system.exchanged etags label = some
        (index, ⟨.journal (.insertSnapshot row), .ok ()⟩) := by
  obtain ⟨index, choice, role, continuation, rfl, reachable, found⟩ := System.made_located made
  refine ⟨index, choice, role, continuation, rfl, found, ?_⟩
  simp [System.exchanged, found, nodeMachine, World.exec, World.query, reachable, Query.run]

theorem Orderly.recorded {row : SnapshotRow} (orderly : node.Orderly etags (.step label))
    (made : node.system.made label = some (.insertSnapshot row))
    (next : System.next node.agent etags node.system label = some after) :
    ∃ index choice role continuation, label = .deliver index choice ∧ node.system.tasks[index]? =
        some ⟨role, .step (.journal (.insertSnapshot row)) continuation⟩ ∧
      node.Keeps row (.ok ()) (some role) := by
  obtain ⟨index, choice, role, continuation, rfl, found, exchanged⟩ := made_recorded made next
  refine ⟨index, choice, role, continuation, rfl, found, ?_⟩
  simpa only [Orderly, exchanged, found, Option.map_some] using orderly

theorem standby_cases {id : String} (stands : node.standby id = some image) :
    image ∈ node.images ∧ image.instanceId = id := by
  unfold standby at stands
  exact ⟨List.mem_of_find?_eq_some stands, by simpa using List.find?_some stands⟩

theorem standby_stepped {id : String}
    (others : ∀ image, node.captured etags label = some image → image.instanceId ≠ id) :
    (node.stepped etags label after).standby id = node.standby id := by
  unfold standby stepped
  cases captures : node.captured etags label with
  | none => rfl
  | some image => simp [others image captures]

theorem standby_captured (captures : node.captured etags label = some image) :
    (node.stepped etags label after).standby image.instanceId = some image := by
  simp [standby, stepped, captures]

end Steps

/-! ### Upgrades -/

section Upgrades

variable {etags : LeaseVersioning}

theorem conduct_upgraded (agent : Agent) (runtimeVersion : String) :
    conduct { agent with runtimeVersion := runtimeVersion } etags =
      conduct agent etags := by
  have inv : (fun world =>
      Claims world ∧ Leases { agent with runtimeVersion := runtimeVersion } world) =
      fun world => Claims world ∧ Leases agent world := by
    funext world
    refine propext (and_congr_right fun _ => ⟨fun leases => ?_, fun leases => ?_⟩) <;>
      exact ⟨leases.held, leases.acked, leases.synced, leases.outside, leases.down⟩
  have fact : Fact { agent with runtimeVersion := runtimeVersion } = Fact agent := by
    funext index role world act
    cases act with
    | bucket origin request => cases request <;> rfl
    | journal query => cases query <;> rfl
    | _ => rfl
  unfold conduct
  congr

theorem accounted_upgraded {node : Deployed}
    (accounted : Accounted node.agent etags node.system node.traces)
    (down : node.system.world.stage = .down) (runtimeVersion : String) :
    Accounted (node.upgraded runtimeVersion).agent etags node.system node.traces where
  covered := by
    rw [upgraded, conduct_upgraded]
    exact accounted.covered
  halted := accounted.halted
  residual := by
    refine ⟨fun index task found => ?_, accounted.residual.fresh⟩
    rcases accounted.halted down task (List.mem_of_getElem? found) with isPeer | returned
    · refine (accounted.residual.residual index task found).imp_right fun reached => ?_
      cases role : task.role with
      | peer request => rwa [role] at reached
      | _ => simp [role, Role.isPeer] at isPeer
    · exact .inl returned
  executing := accounted.executing

end Upgrades

/-! ### What the journal knows of the image in place -/

/-- The pointer of an instance at its latest snapshot leads to the record of the image in place, or
nowhere; and that record, as long as it is there, is what it points at. -/
def Ties (node : Deployed) (row : InstanceRow) : Prop :=
  ∃ image, node.standby row.instanceId = some image ∧
    (row.latestSnapshotId = "" ∨ row.latestSnapshotId = image.snapshot.snapshotId) ∧
    ∀ record ∈ node.journal.snapshots.rows, record.snapshotId = image.snapshot.snapshotId →
      row.latestSnapshotId = record.snapshotId ∧ image.Recorded record

/-- An operation in charge of the instance found it paused. -/
def Found (node : Deployed) (id : String) : Prop :=
  ∃ op ∈ node.journal.operations.rows, op.instanceId = id ∧ op.executorActive = true ∧
    node.system.world.aux.charge op.opId ≠ none ∧
    (node.system.world.aux.recorded op.opId = some .paused ∨ op.kind = .resume)

/-- A pause of the instance has recorded its capture, and not yet finalized. -/
def Paused (node : Deployed) (id : String) : Prop :=
  ∃ index executor requireMemory act continuation row,
    node.system.tasks[index]? = some ⟨.executor executor, .step act continuation⟩ ∧
    executor.payload = .pause requireMemory ∧ executor.op.instanceId = id ∧
    Unfinished (node.traces index) ∧
    ⟨.journal (.insertSnapshot row), .ok ()⟩ ∈ node.traces index

/-- The instance is paused, or held by an operation that found it paused or has just paused it. -/
def Resting (node : Deployed) (id : String) : Prop :=
  node.journal.stateOf id = some .paused ∨ node.Found id ∨ node.Paused id

/-- What a resume has heard of the image in place is still so. -/
def Heard (node : Deployed) (image : Image) : Exchange NodeSig → Prop
  | ⟨.journal (.getInstance id), .ok answer⟩ => id = image.instanceId →
      ∃ row, answer = some row ∧ node.agent.templateHash row.spec = image.templateHash ∧
        (row.latestSnapshotId = "" ∨ row.latestSnapshotId = image.snapshot.snapshotId) ∧
        ∀ record ∈ node.journal.snapshots.rows, record.snapshotId = image.snapshot.snapshotId →
          row.latestSnapshotId = record.snapshotId
  | ⟨.journal (.getSnapshot snapshotId), .ok found⟩ =>
    (∀ row, found = some row → snapshotId ≠ "") ∧
      (snapshotId = image.snapshot.snapshotId →
        (∀ row, found = some row → image.Recorded row) ∧
          ∀ record ∈ node.journal.snapshots.rows, record.snapshotId = snapshotId →
            found = some record)
  | _ => True

structure Standing (etags : LeaseVersioning) (node : Deployed) : Prop where
  accounted : Accounted node.agent etags node.system node.traces
  keyed : ∀ image ∈ node.images, image.cpuClass = node.agent.cpuClass ∧
    ∃ row, node.journal.getInstance image.instanceId = some row ∧
      node.agent.templateHash row.spec = image.templateHash
  named : ∀ row ∈ node.journal.snapshots.rows, row.snapshotId ≠ ""
  ties : ∀ id, node.Resting id → ∃ row, node.journal.getInstance id = some row ∧ node.Ties row
  pausing : ∀ {index executor requireMemory act continuation},
    node.system.tasks[index]? = some ⟨.executor executor, .step act continuation⟩ →
    executor.payload = .pause requireMemory → Unfinished (node.traces index) →
    (∀ row cause, ⟨.journal (.insertSnapshot row), .error cause⟩ ∉ node.traces index) ∧
      ∀ id snapshot, ⟨.runtime (.pause id), .ok snapshot⟩ ∈ node.traces index →
        ∃ image, node.standby executor.op.instanceId = some image ∧ image.snapshot = snapshot ∧
          image.runtimeVersion = node.agent.runtimeVersion
  resuming : ∀ {index executor snapshotId requireMemory act continuation},
    node.system.tasks[index]? = some ⟨.executor executor, .step act continuation⟩ →
    executor.payload = .resume snapshotId requireMemory → Unfinished (node.traces index) →
    ∀ image, node.standby executor.op.instanceId = some image →
      ∀ exchange ∈ node.traces index, node.Heard image exchange

namespace Standing

variable {etags : LeaseVersioning} {node : Deployed} {index : Nat}
  {executor : Executor} {id : String} {label : Label} {after : System}

theorem executing (standing : Standing etags node)
    (executing : Executing index executor node.system.world) (rests : node.Resting id)
    (onInstance : executor.op.instanceId = id) : executor.recorded = .paused ∨
    executor.kind = .resume ∨
      (executor.kind = .pause ∧ ∃ row, ⟨.journal (.insertSnapshot row), .ok ()⟩ ∈
        node.traces index) := by
  obtain ⟨own, ownMember, ownId, ownInstance, ownKind, ownActive⟩ := executing.claimed.journaled
  have isOwn {op : OperationRow} (member : op ∈ node.journal.operations.rows)
      (held : op.instanceId = id) (active : op.executorActive = true) : op = own :=
    standing.accounted.owned.one_active op member own ownMember active ownActive
      (by rw [held, ownInstance, onInstance])
  rcases rests with paused | ⟨op, member, held, active, -, reason⟩ |
    ⟨other, pauser, _, _, _, row, found, pauses, held, unfinished, recorded⟩
  · have recorded := executing.claimed.recorded
    rw [AsRecorded, onInstance, paused] at recorded
    rcases recorded with same | failed
    · exact .inl same.symm
    · cases failed
  · obtain rfl := isOwn member held active
    rw [ownId, ownKind, executing.noted] at reason
    exact reason.imp Option.some.inj .inl
  · have holds := standing.accounted.executing found unfinished
    obtain ⟨op, member, -, opInstance, kind, active⟩ := holds.claimed.journaled
    obtain rfl := isOwn member (opInstance.trans held) active
    obtain ⟨rfl, -⟩ := executing.same standing.accounted.claims holds (onInstance.trans held.symm)
    refine .inr (.inr ⟨?_, row, recorded⟩)
    rw [← ownKind, kind, holds.planned.1, pauses]
    rfl

variable {requireMemory : Bool}

theorem resuming_rests (executing : Executing index executor node.system.world)
    {snapshotId : Option String} (resumes : executor.payload = .resume snapshotId requireMemory) :
    node.Resting executor.op.instanceId := by
  obtain ⟨op, member, opId, onInstance, kind, active⟩ := executing.claimed.journaled
  refine .inr (.inl ⟨op, member, onInstance, active, by simp [opId, executing.charge], .inr ?_⟩)
  rw [kind, executing.planned.1, resumes]
  rfl

variable (standing : Standing etags node)
  (next : System.next node.agent etags node.system label = some after)
  (orderly : node.Orderly etags (.step label))

include standing next orderly in
/-- **Nothing comes between an instance at rest and its image.** An orderly step neither captures
such an instance nor records a snapshot of it. -/
theorem undisturbed (rests : node.Resting id) :
    (∀ image, node.captured etags label = some image → image.instanceId ≠ id) ∧
      ∀ row, node.system.made label = some (.insertSnapshot row) → row.instanceId ≠ id := by
  have pauses {requireMemory : Bool} {index : Nat} {executor : Executor}
      (isPause : executor.payload = .pause requireMemory)
      (holds : Executing index executor node.system.world)
      (onInstance : executor.op.instanceId = id) :
      ∃ row, ⟨.journal (.insertSnapshot row), .ok ()⟩ ∈ node.traces index := by
    have kind : executor.kind = .pause := by rw [holds.planned.1, isPause]; rfl
    rcases standing.executing holds rests onInstance with recorded | resumes | ⟨-, recorded⟩
    · rcases planned_recorded holds.planned (by rw [kind]; decide) with own | ⟨capture, -⟩
      · rw [recorded, kind] at own
        cases own
      · cases kind.symm.trans capture
    · cases kind.symm.trans resumes
    · exact recorded
  constructor
  · rintro image captures rfl
    obtain ⟨index, _, role, continuation, -, found, -⟩ := captured_cases captures
    obtain ⟨executor, _, -, holds, isPause, onInstance, first⟩ :=
      standby_located standing.accounted found
    obtain ⟨row, member⟩ := pauses isPause holds onInstance
    cases first _ member
  · rintro row made rfl
    obtain ⟨index, _, role, continuation, -, found, keeps⟩ := orderly.recorded made next
    cases role with
    | executor executor =>
      obtain ⟨-, named, unpaused, -⟩ := keeps
      obtain ⟨holds, onInstance, ⟨_, _, isPause, -, -, first⟩ | ⟨name, isCapture⟩⟩ :=
        record_located standing.accounted found named
      · obtain ⟨row, member⟩ := pauses isPause holds onInstance.symm
        exact first row _ member
      · have kind : executor.kind = .createSnapshot := by rw [holds.planned.1, isCapture]; rfl
        rcases standing.executing holds rests onInstance.symm with
          recorded | resumes | ⟨other, -⟩
        · exact unpaused ⟨kind, recorded⟩
        · cases kind.symm.trans resumes
        · cases kind.symm.trans other
    | _ =>
      obtain ⟨-, absent, -⟩ := keeps
      obtain ⟨_, present, -⟩ := standing.ties _ rests
      cases absent.symm.trans present

variable {image : Image}

include standing next orderly in
theorem unrecorded (rests : node.Resting id)
    (stands : node.standby id = some image) {row : SnapshotRow}
    (made : node.system.made label = some (.insertSnapshot row)) :
    row.snapshotId ≠ image.snapshot.snapshotId := by
  intro same
  obtain ⟨member, onInstance⟩ := standby_cases stands
  obtain ⟨index, _, role, continuation, -, found, keeps⟩ := orderly.recorded made next
  cases role with
  | executor executor =>
    obtain ⟨-, -, -, alone⟩ := keeps
    have own := (alone image member same.symm).2
    exact (standing.undisturbed next orderly rests).2 row made (own.symm.trans onInstance)
  | _ => exact keeps.2.2 image member same.symm

include standing next orderly in
theorem record_stays (rests : node.Resting id)
    (stands : node.standby id = some image) {record : SnapshotRow}
    (member : record ∈ after.world.journal.snapshots.rows)
    (same : record.snapshotId = image.snapshot.snapshotId) :
    record ∈ node.journal.snapshots.rows := by
  rcases snapshot_cases next member with old | made
  · exact old
  · exact absurd same (standing.unrecorded next orderly rests stands made)

include standing next orderly in
theorem ties_kept (rests : node.Resting id) :
    ∃ row, after.world.journal.getInstance id = some row ∧
      (node.stepped etags label after).Ties row := by
  obtain ⟨old, found, image, stands, pointer, records⟩ := standing.ties id rests
  obtain ⟨uncaptured, unrecorded⟩ := standing.undisturbed next orderly rests
  obtain ⟨new, moved, -, change⟩ := pointer_cases next found
  rw [Journal.getInstance_named found] at stands
  refine ⟨new, moved, image, ?_, ?_, fun record member same => ?_⟩
  · rw [Journal.getInstance_named moved, standby_stepped uncaptured, stands]
  · rcases change with same | ⟨record, made, onInstance⟩ | ⟨cleared, -⟩
    · rwa [same]
    · exact absurd onInstance (unrecorded record made)
    · exact .inl cleared
  · obtain ⟨points, recorded⟩ :=
      records record (standing.record_stays next orderly rests stands member same) same
    rcases change with kept | ⟨record, made, onInstance⟩ | ⟨-, gone⟩
    · exact ⟨kept.trans points, recorded⟩
    · exact absurd onInstance (unrecorded record made)
    · exact absurd points.symm (gone record member)

include standing next in
theorem rests_state (paused : after.world.journal.stateOf id = some .paused) : node.Resting id := by
  cases made : node.system.made label with
  | none =>
    rw [Journal.stateOf_of_instances (instances_unmade made next)] at paused
    exact .inl paused
  | some query =>
    obtain ⟨nowMs, ⟨answer, ran⟩ | ⟨-, same⟩⟩ := System.journal_made made next
    swap
    · rw [same] at paused
      exact .inl paused
    obtain ⟨index, choice, role, continuation, rfl, -, found⟩ := System.made_located made
    obtain ⟨_, _, _, _, world, located, executed, rfl⟩ := Pool.step_cases next
    cases found.symm.trans located
    obtain ⟨-, ⟨-, fact⟩, -⟩ := standing.accounted.covered.guar found executed trivial
    rcases Query.run_stateOf ran id with
      same | ⟨args, recorded, rfl, moved, -, -, source, was, planned⟩ | ⟨_, -, -, created⟩ |
      ⟨args, rfl, onInstance, moved⟩ | ⟨state, rfl, moved⟩
    · exact .inl (same.symm.trans paused)
    · cases moved.symm.trans paused
      obtain ⟨-, plan⟩ := fact
      rw [plan] at planned
      exact .inl (by rw [was, planTransition_paused planned (.inl rfl)])
    · cases created.symm.trans paused
    · -- An operation finalized: it found the instance paused, or paused it.
      obtain ⟨executor, rfl, holds, opId, ofInstance, settled, -⟩ := fact
      have isPaused : args.state = .paused := Option.some.inj (moved.symm.trans paused)
      rw [isPaused] at settled
      rcases settledState_paused holds.planned settled.symm with recorded | ⟨kind, succeeded⟩
      · obtain ⟨op, member, sameOp, opInstance, -, active⟩ := holds.claimed.journaled
        refine .inr (.inl ⟨op, member, ?_, active, by simp [sameOp, holds.charge], .inl ?_⟩)
        · rw [opInstance, onInstance, ofInstance]
        · rw [sameOp, holds.noted, recorded]
      · have residual := standing.accounted.come found
        have unfinished := finish_first residual
        obtain ⟨requireMemory, pauses⟩ : ∃ requireMemory, executor.payload =
          .pause requireMemory := by
          have ofKind := holds.planned.1
          rw [kind] at ofKind
          cases payload : executor.payload with
          | pause requireMemory => exact ⟨requireMemory, rfl⟩
          | _ => simp [payload, OpPayload.kind] at ofKind
        obtain ⟨row, answer, tried⟩ := finish_tried residual pauses succeeded
        cases answer with
        | error cause => exact absurd tried ((standing.pausing found pauses unfinished).1 row cause)
        | ok _ =>
          exact .inr (.inr ⟨index, executor, requireMemory, _, _, row, found, pauses,
            (onInstance.trans ofInstance).symm, unfinished, tried⟩)
    · cases moved.symm.trans paused
      rcases fact with ⟨-, failed, -⟩ | ⟨boots, -⟩
      · cases failed
      · cases role with
        | boot failed =>
          have spared := ((boot_unpaused failed).after (standing.accounted.come found)).2.1
          exact absurd rfl (spared id)
        | _ => cases boots

include standing next in
theorem rests_found (found : (node.stepped etags label after).Found id) : node.Resting id := by
  obtain ⟨op, member, held, active, charged, reason⟩ := found
  rcases claim_cases standing.accounted.covered next member active charged with
    ⟨old, oldMember, step, oldActive, oldCharged, -⟩ | ⟨args, recorded, journaled, rfl⟩
  · refine .inr (.inl ⟨old, oldMember, step.instanceId ▸ held, oldActive, step.opId ▸ oldCharged,
      reason.imp (fun noted => ?_) fun resumes => step.kind ▸ resumes⟩)
    rw [step.opId] at noted
    exact recorded_kept next oldMember noted
  · refine .inl (held ▸ journaled_paused standing.accounted next journaled (reason.imp_left ?_))
    intro noted
    exact Option.some.inj ((journaled_noted next journaled).symm.trans noted)

include standing next in
theorem rests_paused (paused : (node.stepped etags label after).Paused id) :
    node.Resting id ∨ ∃ index executor requireMemory row continuation choice,
      label = .deliver index choice ∧ node.system.tasks[index]? =
        some ⟨.executor executor, .step (.journal (.insertSnapshot row)) continuation⟩ ∧
      node.system.exchanged etags label = some (index, ⟨.journal (.insertSnapshot row), .ok ()⟩) ∧
      executor.payload = .pause requireMemory ∧ executor.op.instanceId = id ∧
      Unfinished (node.traces index) := by
  obtain ⟨index, executor, requireMemory, act, continuation, row, live, pauses, held, unfinished,
    recorded⟩ := paused
  dsimp only [stepped] at live unfinished recorded
  rcases standing.accounted.unfinished_cases next live unfinished with
    bare | ⟨last, resume, found, earlier, heard⟩
  · rw [bare] at recorded
    cases recorded
  rcases heard _ recorded with before | ⟨choice, answer, rfl, same, executed⟩
  · exact .inl (.inr (.inr ⟨index, executor, requireMemory, last, resume, row, found, pauses, held,
      earlier, before⟩))
  · cases same
    refine .inr ⟨index, executor, requireMemory, row, resume, choice, rfl, found, ?_, pauses,
      held, earlier⟩
    simp [System.exchanged, found, executed]

theorem ties_recorded (standing : Standing etags node) {choice : Choice}
    (next : System.next node.agent etags node.system (.deliver index choice) = some after)
    (orderly : node.Orderly etags (.step (.deliver index choice))) {row : SnapshotRow}
    {continuation : Except String Unit → NodeProg Unit} (found : node.system.tasks[index]? =
      some ⟨.executor executor, .step (.journal (.insertSnapshot row)) continuation⟩)
    (exchanged : node.system.exchanged etags (.deliver index choice) =
      some (index, ⟨.journal (.insertSnapshot row), .ok ()⟩))
    (pauses : executor.payload = .pause requireMemory)
    (unfinished : Unfinished (node.traces index)) :
    ∃ new, after.world.journal.getInstance executor.op.instanceId = some new ∧
      (node.stepped etags (.deliver index choice) after).Ties new := by
  have keeps : node.Keeps row (.ok ()) (some (.executor executor)) := by
    simpa only [Orderly, exchanged, found, Option.map_some] using orderly
  obtain ⟨-, named, -, -⟩ := keeps
  obtain ⟨holds, -, ⟨_, snapshot, -, captured, keyed, -⟩ | ⟨name, other⟩⟩ :=
    record_located standing.accounted found named
  swap
  · cases pauses.symm.trans other
  obtain ⟨image, stands, rfl, version⟩ :=
    (standing.pausing found pauses unfinished).2 _ snapshot captured
  obtain ⟨member, onInstance⟩ := standby_cases stands
  obtain ⟨machine, old, present, -⟩ := standing.keyed image member
  have uncaptured : node.captured etags (.deliver index choice) = none := by
    simp only [Deployed.captured, exchanged]
  obtain ⟨_, _, _, _, world, located, executed, rfl⟩ := Pool.step_cases next
  cases found.symm.trans located
  have isOk := exchanged
  simp only [System.exchanged, found, executed, Option.map_some] at isOk
  cases isOk
  rcases query_cases executed with ⟨_, refused, -⟩ | ⟨_, journal, -, ran, rfl⟩
  · cases refused
  obtain ⟨-, rfl⟩ := Prod.mk.inj (Except.ok.inj ran)
  rw [onInstance] at present
  refine ⟨{ old with latestSnapshotId := row.snapshotId, updatedAtMs := choice.nowMs },
    ?_, image, ?_,
    .inr keyed.snapshotId, fun record recordMember same => ?_⟩
  · have written := @Journal.getInstance_updateInstance node.journal row.instanceId
      executor.op.instanceId
      (fun target => { target with
        latestSnapshotId := row.snapshotId, updatedAtMs := choice.nowMs })
      fun _ => rfl
    rw [if_pos keyed.instanceId.symm, present] at written
    exact written
  · rw [standby_stepped (by simp [uncaptured])]
    exact (congrArg node.standby (Journal.getInstance_named present)).trans stands
  · have isRow : record = row := Table.eq_of_column List.mem_cons_self recordMember
        (List.mem_append_right _ List.mem_cons_self) (same.trans keyed.snapshotId.symm)
    subst isRow
    exact ⟨rfl, keyed.snapshotId, keyed.instanceId.trans onInstance.symm, keyed.kind,
      keyed.cpuClass.trans machine.symm, keyed.runtimeBundleRef.trans version.symm⟩

include standing next orderly in
theorem ties_step (rests : (node.stepped etags label after).Resting id) :
    ∃ row, after.world.journal.getInstance id = some row ∧
      (node.stepped etags label after).Ties row := by
  rcases rests with paused | found | paused
  · exact standing.ties_kept next orderly (standing.rests_state next paused)
  · exact standing.ties_kept next orderly (standing.rests_found next found)
  · rcases standing.rests_paused next paused with
      rested | ⟨index, executor, _, row, _, _, rfl, found, exchanged, pauses, rfl, unfinished⟩
    · exact standing.ties_kept next orderly rested
    · exact standing.ties_recorded next orderly found exchanged pauses unfinished

include standing next in
theorem keyed_step :
    ∀ image ∈ (node.stepped etags label after).images, image.cpuClass = node.agent.cpuClass ∧
        ∃ row, after.world.journal.getInstance image.instanceId = some row ∧
          node.agent.templateHash row.spec = image.templateHash := by
  -- An instance stays, with the spec it has.
  have stays {image : Image} {row : InstanceRow}
      (present : node.journal.getInstance image.instanceId = some row)
      (hash : node.agent.templateHash row.spec = image.templateHash) :
      ∃ row, after.world.journal.getInstance image.instanceId = some row ∧
        node.agent.templateHash row.spec = image.templateHash := by
    obtain ⟨new, moved, sameSpec, -⟩ := pointer_cases next present
    exact ⟨new, moved, by rw [sameSpec, hash]⟩
  intro image member
  rcases List.mem_append.mp member with captures | old
  · rw [Option.mem_toList] at captures
    obtain ⟨index, _, role, _, -, found, -, -, machine, hash⟩ := captured_cases captures
    obtain ⟨executor, _, rfl, holds, pauses, onInstance, -⟩ :=
      standby_located standing.accounted found
    have kind : executor.kind = .pause := by rw [holds.planned.1, pauses]; rfl
    have recorded := holds.claimed.recorded
    rw [AsRecorded, Journal.stateOf, onInstance] at recorded
    cases present : node.journal.getInstance image.instanceId with
    | none =>
      rw [present] at recorded
      rcases planned_recorded holds.planned (by rw [kind]; decide) with own | ⟨capture, -⟩
      · rw [own, kind] at recorded
        cases recorded
      · cases kind.symm.trans capture
    | some row =>
      rw [present] at hash
      exact ⟨machine, stays present hash.symm⟩
  · obtain ⟨machine, row, present, hash⟩ := standing.keyed image old
    exact ⟨machine, stays present hash⟩

include standing next orderly in
theorem named_step :
    ∀ row ∈ after.world.journal.snapshots.rows, row.snapshotId ≠ "" := by
  intro row member
  rcases snapshot_cases next member with old | made
  · exact standing.named row old
  · obtain ⟨_, _, role, _, -, -, keeps⟩ := orderly.recorded made next
    cases role <;> exact keeps.1

variable {act : NodeAct} {continuation : NodeSig.Ans act → NodeProg Unit}

theorem captures_own (standing : Standing etags node)
    (found : node.system.tasks[index]? = some ⟨.executor executor, .step act continuation⟩)
    (unfinished : Unfinished (node.traces index))
    (captures : node.captured etags label = some image)
    (onInstance : image.instanceId = executor.op.instanceId) :
    ∀ exchange ∈ node.traces index, exchange.act.isCapture = false := by
  obtain ⟨other, _, role, _, -, located, -⟩ := captured_cases captures
  obtain ⟨capturer, _, -, holds, -, ofInstance, first⟩ := standby_located standing.accounted located
  obtain ⟨rfl, -⟩ := holds.same standing.accounted.claims
    (standing.accounted.executing found unfinished) (ofInstance.trans onInstance)
  exact first

include standing next orderly in
theorem pausing_step
    (live : after.tasks[index]? = some ⟨.executor executor, .step act continuation⟩)
    (pauses : executor.payload = .pause requireMemory)
    (unfinished : Unfinished (System.tracesAfter etags node.system label node.traces index)) :
    (∀ row cause, ⟨.journal (.insertSnapshot row), .error cause⟩ ∉
        System.tracesAfter etags node.system label node.traces index) ∧
      ∀ id snapshot, ⟨.runtime (.pause id), .ok snapshot⟩ ∈
          System.tracesAfter etags node.system label node.traces index →
        ∃ image, (node.stepped etags label after).standby executor.op.instanceId = some image ∧
          image.snapshot = snapshot ∧ image.runtimeVersion = node.agent.runtimeVersion := by
  rcases standing.accounted.unfinished_cases next live unfinished with
    bare | ⟨last, resume, found, earlier, heard⟩
  · rw [bare]
    exact ⟨by simp, by simp⟩
  obtain ⟨unlost, captured⟩ := standing.pausing found pauses earlier
  constructor
  · intro row cause member
    rcases heard _ member with before | ⟨choice, answer, rfl, same, executed⟩
    · exact unlost row cause before
    · cases same
      have keeps : node.Keeps row (.error cause) (some (.executor executor)) := by
        simpa [Orderly, System.exchanged, found, executed] using orderly
      refine keeps ?_
      rw [(standing.accounted.executing found earlier).planned.1, pauses]
      rfl
  · intro id snapshot member
    rcases heard _ member with before | ⟨choice, answer, rfl, same, executed⟩
    · obtain ⟨image, stands, rest⟩ := captured id snapshot before
      refine ⟨image, ?_, rest⟩
      rw [standby_stepped, stands]
      intro other captures onInstance
      cases standing.captures_own found earlier captures onInstance _ before
    · cases same
      obtain ⟨_, _, same, -, -, onInstance, -⟩ := standby_located standing.accounted found
      cases same
      have captures : node.captured etags (.deliver index choice) = some ⟨id, snapshot,
          node.agent.runtimeVersion, node.agent.cpuClass,
          ((node.journal.getInstance id).map fun row =>
            node.agent.templateHash row.spec).getD ""⟩ := by
        simp [Deployed.captured, System.exchanged, found, executed]
      exact ⟨_, onInstance ▸ standby_captured captures, rfl, rfl⟩

include standing next orderly in
theorem heard_kept (rests : node.Resting id)
    (stands : node.standby id = some image) {exchange : Exchange NodeSig}
    (heard : node.Heard image exchange) :
    (node.stepped etags label after).Heard image exchange := by
  obtain ⟨act, answer⟩ := exchange
  cases act with
  | journal query =>
    cases query with
    | getInstance target =>
      cases answer with
      | error cause => trivial
      | ok found =>
        intro named
        obtain ⟨row, isRow, hash, pointer, records⟩ := heard named
        refine ⟨row, isRow, hash, pointer, fun record member same => ?_⟩
        exact records record (standing.record_stays next orderly rests stands member same) same
    | getSnapshot snapshotId =>
      cases answer with
      | error cause => trivial
      | ok found =>
        obtain ⟨named, records⟩ := heard
        refine ⟨named, fun isImage => ⟨(records isImage).1, fun record member same => ?_⟩⟩
        exact (records isImage).2 record
          (standing.record_stays next orderly rests stands member (same.trans isImage)) same
    | _ => trivial
  | _ => trivial

theorem heard_now (standing : Standing etags node) (rests : node.Resting id)
    (stands : node.standby id = some image) {answer : NodeSig.Ans act} {choice : Choice}
    {world : World} (executed : (nodeMachine etags).exec index act choice node.system.world =
      some (answer, world)) : node.Heard image ⟨act, answer⟩ := by
  obtain ⟨imageMember, onInstance⟩ := standby_cases stands
  obtain ⟨row, present, ⟨image', stands', pointer, records⟩⟩ := standing.ties id rests
  rw [Journal.getInstance_named present, stands] at stands'
  cases stands'
  cases act with
  | journal query =>
    cases query with
    | getInstance target =>
      cases answer with
      | error cause => trivial
      | ok found =>
        rintro rfl
        rcases query_cases executed with ⟨_, refused, -⟩ | ⟨_, _, ⟨⟩, ran, -⟩
        · cases refused
        · cases ran
          obtain ⟨-, row', present', hash⟩ := standing.keyed image imageMember
          rw [onInstance, present] at present'
          cases present'
          refine ⟨row, by rw [onInstance]; exact present, hash, pointer,
            fun record member same => ?_⟩
          exact (records record member same).1
    | getSnapshot snapshotId =>
      cases answer with
      | error cause => trivial
      | ok found =>
        rcases query_cases executed with ⟨_, refused, -⟩ | ⟨_, _, ⟨⟩, ran, -⟩
        · cases refused
        · cases ran
          refine ⟨fun row isRow => ?_, fun isImage =>
            ⟨fun row isRow => ?_, fun record member same => ?_⟩⟩
          · obtain ⟨member, named⟩ := Table.mem_of_find? isRow
            exact beq_iff_eq.mp named ▸ standing.named row member
          · obtain ⟨member, named⟩ := Table.mem_of_find? isRow
            exact (records row member ((beq_iff_eq.mp named).trans isImage)).2
          · subst same
            exact getSnapshot_mem member
    | _ => trivial
  | _ => trivial

include standing next orderly in
theorem resuming_step {snapshotId : Option String}
    (live : after.tasks[index]? = some ⟨.executor executor, .step act continuation⟩)
    (resumes : executor.payload = .resume snapshotId requireMemory)
    (unfinished : Unfinished (System.tracesAfter etags node.system label node.traces index))
    (image : Image)
    (stands : (node.stepped etags label after).standby executor.op.instanceId = some image) :
    ∀ exchange ∈ System.tracesAfter etags node.system label node.traces index,
      (node.stepped etags label after).Heard image exchange := by
  rcases standing.accounted.unfinished_cases next live unfinished with
    bare | ⟨last, resume, found, earlier, heard⟩
  · rw [bare]
    simp
  have rests := resuming_rests (standing.accounted.executing found earlier) resumes
  rw [standby_stepped (standing.undisturbed next orderly rests).1] at stands
  intro exchange member
  refine standing.heard_kept next orderly rests stands ?_
  rcases heard exchange member with before | ⟨choice, answer, -, rfl, executed⟩
  · exact standing.resuming found resumes earlier image stands exchange before
  · exact standing.heard_now rests stands executed

include standing next orderly in
/-- **An orderly step keeps the journal in agreement with the images in place.** -/
theorem step :
    Standing etags (node.stepped etags label after) where
  accounted := standing.accounted.step next
  keyed := standing.keyed_step next
  named := standing.named_step next orderly
  ties _ := standing.ties_step next orderly
  pausing := standing.pausing_step next orderly
  resuming := standing.resuming_step next orderly

theorem upgrade (standing : Standing etags node) (down : node.system.world.stage = .down)
    (runtimeVersion : String) : Standing etags (node.upgraded runtimeVersion) := by
  have dead {index : Nat} {executor : Executor} {act : NodeAct}
      {continuation : NodeSig.Ans act → NodeProg Unit}
      (found : node.system.tasks[index]? = some ⟨.executor executor, .step act continuation⟩) :
      False := by
    rcases standing.accounted.halted down _ (List.mem_of_getElem? found) with peer | returned
    · cases peer
    · cases returned
  exact {
    accounted := accounted_upgraded standing.accounted down runtimeVersion
    keyed := standing.keyed
    named := standing.named
    ties := standing.ties
    pausing := fun found => (dead found).elim
    resuming := fun found => (dead found).elim }

theorem initial (agent : Agent) : Standing etags (fresh agent) where
  accounted := Accounted.initial
  keyed := by rintro _ ⟨⟩
  named := by rintro _ ⟨⟩
  ties id rests := by
    rcases rests with paused | ⟨_, ⟨⟩, -⟩ | ⟨_, _, _, _, _, _, found, -⟩
    · cases paused
    · cases found
  pausing found := by cases found
  resuming found := by cases found

end Standing

theorem reach_standing {agent : Agent} {etags : LeaseVersioning}
    {history : List Happening} {node : Deployed} (reached : reach agent etags history = some node)
    (orderly : Along (next etags)
      (fun before happening _ => before.Orderly etags happening) (fresh agent) history) :
    Standing etags node := by
  refine orderly.invariant (I := Standing etags) ?_ (Standing.initial agent) reached
  intro before happening later standing taken here
  cases happening with
  | step label =>
    obtain ⟨after, stepped, rfl⟩ := Option.map_eq_some_iff.mp taken
    exact standing.step stepped here
  | upgrade runtimeVersion =>
    simp only [next] at taken
    split at taken
    · next down =>
        cases taken
        exact standing.upgrade down runtimeVersion
    · cases taken

end Deployed

end Barista.Node
