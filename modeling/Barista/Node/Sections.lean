import Barista.Foundation.History
import Barista.Node.FleetPhase
import Barista.Node.Service

/-!
Contract: the node's programs as sequences of critical sections and loose actions.

Every write to a lease record, to the map of held leases, or to the rows that mirror
them happens in one of a handful of sections under `lease_writes`; everything else a
program does is a loose action. A fact that sequencing preserves therefore has to be
proved of the sections and of loose actions only.

Owns: the sections, the loose actions, and the assembly of every program of the node.
-/

namespace Barista.Node

open Foundation Fleet

def Owned (agent : Agent) (held : Held) : Prop := held.lease.owner = agent.nodeId

/-- What a program may do besides reading and announcing. -/
structure Permit where
  /-- Call the runtime. An executor may, until it has finalized its operation. -/
  acts : Bool
  /-- Submit operations. -/
  submits : Bool
  /-- Write the rows of `fleet_leases`, as the current tick or boot. -/
  ticks : Bool
  /-- Write lease records, as a member of the fleet. -/
  joined : Bool
  /-- Run before the process serves. -/
  boots : Bool
  /-- Fail instances whose sandbox is gone, as the reconciler. -/
  fails : Bool
deriving DecidableEq

namespace Permit

def executor : Permit := ⟨true, false, false, false, false, false⟩
def finalized : Permit := ⟨false, false, false, false, false, false⟩
def caller : Permit := ⟨true, true, false, false, false, false⟩
def booter : Permit := ⟨true, true, true, false, true, false⟩
def booted : Permit := ⟨true, true, true, false, false, false⟩
def ticker : Permit := ⟨true, true, true, false, false, true⟩
def member : Permit := ⟨true, true, true, true, false, true⟩

end Permit

def Query.isLoose : Query → Bool
  | .submitAtomically _ | .finishOperation _ | .setInstanceState .. | .issueExecutionEpoch
  | .setInstanceEpoch .. | .holdLease .. | .setLeaseInstance .. | .markLeaseFencing _
  | .releaseLease _ => false
  | _ => true

def Query.isSurrender : Query → Bool
  | .markLeaseFencing _ | .releaseLease _ => true
  | _ => false

def NodeAct.isLoose : NodeAct → Bool
  | .bucket origin (.get _) => origin ≠ .peer
  | .bucket _ (.put _ _ _) => false
  | .journal query => query.isLoose
  | .runState _ | .takeWrites | .dropWrites | .held | .hold _ _ | .forget _ | .beginTick
  | .endTick | .join | .spawn _ => false
  | _ => true

def NodeAct.isRuntime : NodeAct → Bool
  | .runtime _ => true
  | _ => false

def Permit.allows (permit : Permit) (act : NodeAct) : Bool :=
  act.isLoose && (!act.isRuntime || permit.acts)

/-- Actions that are an operation's own work: a call on the runtime that acts, or a write to the
`snapshots` table, but for the row of an imported capsule. -/
def NodeAct.isWork : NodeAct → Bool
  | .runtime .listSandboxes | .runtime (.stopStatus _) => false
  | .runtime _ | .journal (.deleteSnapshot _) => true
  | .journal (.insertSnapshot row) => row.instanceId ≠ "" || row.name ≠ "" ||
      !"capsule:".toList.isPrefixOf row.snapshotId.toList
  | _ => false

def Query.disturbs : Query → Bool
  | .submitAtomically _ | .finishOperation _ | .setInstanceState .. | .setInstanceReady ..
  | .setTtlDeadline .. | .setWakeAt .. | .claimWake .. | .setInstanceEpoch .. => true
  | _ => false

/-- An action that announces no change of state and writes none of an instance's columns. -/
def NodeAct.isDiscreet : NodeAct → Bool
  | .journal (.insertEvent event) => event.type ≠ .stateChanged
  | .journal query => !query.disturbs
  | _ => true

def Loose {α : Type} (program : NodeProg α) : Prop := 
  program.Emits fun act : NodeAct => act.isLoose = true

/-- Actions that read rows, or ask something beyond the node's own state. -/
def NodeAct.isConsult : NodeAct → Bool
  | .now | .ulid | .beyond _ | .runtime (.stopStatus _) | .journal (.getInstance _)
  | .journal (.getSnapshot _) | .journal (.snapshotNamed ..) => true
  | _ => false

def Consults {α : Type} (program : NodeProg α) : Prop :=
  program.Emits fun act : NodeAct => act.isConsult = true

/-- A program of loose actions that are no operation's work. -/
def Aside {α : Type} (program : NodeProg α) : Prop :=
  program.Emits fun act : NodeAct => act.isLoose = true ∧ act.isWork = false

namespace Consults

variable {agent : Agent} {α β : Type} {program : NodeProg α}

theorem aside (consults : Consults program) : Aside program := by
  refine Prog.Emits.mono (fun act isConsult => ?_) consults
  cases act with
  | journal query => cases query <;> first | exact ⟨rfl, rfl⟩ | cases isConsult
  | runtime call => cases call <;> first | exact ⟨rfl, rfl⟩ | cases isConsult
  | beyond | now | ulid => exact ⟨rfl, rfl⟩
  | _ => cases isConsult

theorem pure {value : α} : Consults (.pure value : NodeProg α) := trivial

theorem seq {rest : α → NodeProg β} (first : Consults program)
    (second : ∀ value, Consults (rest value)) : Consults (program.bind rest) :=
  Prog.Emits.bind first second

theorem act {act : NodeAct} (isConsult : act.isConsult = true) : Consults (perform act) :=
  ⟨isConsult, fun _ => trivial⟩

theorem guestTokenFor (payload : OpPayload) : Consults (guestTokenFor payload) := by
  cases payload <;> first
    | exact .pure
    | exact .seq (act rfl) fun answer => by cases answer <;> exact .pure

theorem snapshotToRestore (id : String) (snapshotId : Option String) :
    Consults (snapshotToRestore id snapshotId) := by
  cases snapshotId with
  | some snapshotId => exact .seq (act rfl) fun _ => .pure
  | none =>
    refine .seq (act rfl) fun found => ?_
    split
    · exact .pure
    · split
      · exact .pure
      · exact .seq (act rfl) fun _ => .pure

theorem resolveRestore (id : String) (snapshotId : Option String) (requireMemory : Bool) :
    Consults (resolveRestore agent id snapshotId requireMemory) := by
  refine .seq (snapshotToRestore ..) fun snapshot => .seq (act rfl) fun found => ?_
  split <;> exact .pure

theorem preflight (instanceId : String) (payload : OpPayload) :
    Consults (preflight agent instanceId payload) := by
  unfold Node.preflight
  split
  · refine .seq (resolveRestore ..) fun decision => ?_
    split <;> exact .pure
  · refine .seq (act rfl) fun existing => ?_
    split <;> exact .pure
  · exact .pure

theorem checkReplay (kind : OpKind) (instanceId : String) (payload : OpPayload)
    (original : OperationRow) : Consults (checkReplay kind instanceId payload original) := by
  unfold Node.checkReplay
  split
  · exact .pure
  · split
    · refine .seq (act rfl) fun found => ?_
      split
      · split <;> exact .pure
      · exact .pure
      · exact .pure
    · exact .pure

theorem deadlineFor (id : String) (settled : InstanceState) :
    Consults (deadlineFor id settled) := by
  unfold Node.deadlineFor
  split
  · refine .seq (act rfl) fun found => ?_
    split
    · split
      · exact .seq (act rfl) fun _ => .pure
      · exact .pure
    · exact .pure
  · exact .pure

theorem stopReasonOf (kind : OpKind) (id : String) : Consults (stopReasonOf kind id) := by
  refine .seq (act rfl) fun status => ?_
  split <;> exact .pure

theorem stopReasonFor (kind : OpKind) (id : String) (settled : InstanceState) :
    Consults (stopReasonFor kind id settled) := by
  unfold Node.stopReasonFor
  split
  · split
    · exact .seq (stopReasonOf ..) fun _ => .pure
    · refine .seq (act rfl) fun found => ?_
      split <;> exact .pure
  · exact .pure

end Consults

namespace Aside

variable {agent : Agent} {α β : Type}

variable {program : NodeProg α}

theorem loose (aside : Aside program) : Loose program :=
  Prog.Emits.mono (fun _ => And.left) aside

theorem pure {value : α} : Aside (.pure value : NodeProg α) := trivial

theorem seq {rest : α → NodeProg β} (first : Aside program) (second : ∀ value, Aside (rest value)) :
    Aside (program.bind rest) :=
  Prog.Emits.bind first second

theorem act {act : NodeAct} (loose : act.isLoose = true) (aside : act.isWork = false) :
    Aside (perform act) :=
  ⟨⟨loose, aside⟩, fun _ => trivial⟩

theorem record (event : EventRow) : Aside (Events.record event) :=
  .seq (act rfl rfl) fun _ => .pure

theorem discard (assembled : Aside program) : Aside (discard program) :=
  .seq assembled fun _ => .pure

theorem resolve (name : String) : Aside (onBucket .resolve (resolve leaseCodec name)) := by
  refine .seq (act rfl rfl) fun answer => ?_
  dsimp only [Prog.bind]
  split
  · exact .pure
  · exact .pure

theorem recordAll (events : List EventRow) : Aside (Events.recordAll events) := by
  induction events with
  | nil => exact .pure
  | cons event rest ih => exact .seq (record _) fun _ => ih

theorem cancel (opId instanceId reason : String) : Aside (cancel opId instanceId reason) := by
  refine .seq (act rfl rfl) fun outcome => ?_
  split
  · exact .seq (record _) fun _ => .pure
  · exact .pure

theorem journalState (instanceId : String) : Aside (journalState instanceId) := by
  unfold Node.journalState
  split
  · exact .pure
  · refine .seq (act rfl rfl) fun found => ?_
    split <;> exact .pure

theorem holdWithout (holdsReported : List String) (name instanceId : String) :
    Aside (holdWithout holdsReported name instanceId) := by
  unfold Node.holdWithout
  split
  · exact .pure
  · exact .seq (act rfl rfl) fun _ => record _

theorem realisingId (spec : InstanceSpec) (held : Held) (realising : Realising) :
    Aside (realisingId spec held realising) := by
  unfold Node.realisingId
  split
  · exact .pure
  · exact .pure
  · exact act rfl rfl

theorem desired : Aside (desired agent) := by
  have listed : ∀ (locations : List String) (set : DesiredSet),
    Aside (readDesired agent locations set) := by
    intro locations
    induction locations with
    | nil => exact fun set => .pure
    | cons location rest ih =>
      intro set
      refine .seq (act rfl rfl) fun fetched => ?_
      split
      · exact .pure
      · exact ih _
  refine .seq (act rfl rfl) fun listing => ?_
  split
  · exact .pure
  · exact listed ..

theorem announceFailed (failed : List OperationRow) : Aside (announceFailed failed) := by
  induction failed with
  | nil => exact .pure
  | cons op rest ih => exact .seq (record _) fun _ => ih

theorem setWake (id : String) (wakeAt : Option Timestamp) : Aside (setWake id wakeAt) := by
  have armed (at_ : Option Int) : Aside (armWake id at_) := by
    refine .seq (act rfl rfl) fun written => ?_
    split
    · exact .pure
    · refine .seq (act rfl rfl) fun found => ?_
      split <;> exact .pure
  refine .seq (act rfl rfl) fun found => ?_
  split
  · exact .pure
  · exact .pure
  · split
    · exact .pure
    · split
      · exact armed _
      · split
        · exact .pure
        · refine .seq (act rfl rfl) fun now => ?_
          split
          · exact .pure
          · exact armed _

theorem passthrough (id : String) : Aside (passthrough id) := by
  have opened : Aside (openGuest id) := by
    refine .seq (act rfl rfl) fun found => ?_
    split
    · exact .pure
    · exact .pure
    · split
      · exact .pure
      · refine .seq (act rfl rfl) fun connected => ?_
        split
        · exact .pure
        · exact .pure
        · exact .seq (record _) fun _ => .pure
  refine .seq opened fun outcome => ?_
  split
  · refine .seq (act rfl rfl) fun found => ?_
    split
    · split
      · exact .pure
      · exact .seq (act rfl rfl) fun _ => discard (act rfl rfl)
    · exact .pure
  · exact .pure

theorem registerImport (capsuleId : String) (manifest : CapsuleManifest) (remote : Bool) :
    Aside (registerImport capsuleId manifest remote) :=
  .seq (act rfl rfl) fun _ => discard (act rfl (by simp [NodeAct.isWork, String.toList_append]))

theorem deleteCapsule (capsuleId : String) : Aside (deleteCapsule capsuleId) := by
  refine .seq (act rfl rfl) fun found => ?_
  split
  · exact .pure
  · exact discard (act rfl rfl)

end Aside

/-- Where an operation on an instance may journal a capture, and under which name. -/
def Journals (id name : String) (act : NodeAct) : Prop :=
  ∃ row, act = .journal (.insertSnapshot row) ∧ row.instanceId = id ∧ row.name = name

def OpPayload.does (id : String) (act : NodeAct) : OpPayload → Prop
  | .create spec => ∃ guest, act = .runtime (.create spec guest)
  | .start => ∃ spec guest, act = .runtime (.start id spec guest)
  | .stop graceSeconds => act = .runtime (.stop id graceSeconds)
  | .pause _ => act = .runtime (.pause id) ∨ Journals id "" act
  | .resume _ _ => (∃ target, act = .runtime (.resume id target)) ∨
      ∃ spec guest, act = .runtime (.start id spec guest)
  | .createSnapshot name => act = .runtime (.createSnapshot id name) ∨
      Journals id (name.getD "") act ∨ ∃ snapshotId, act = .runtime (.deleteSnapshot snapshotId)
  | .deleteSnapshot snapshotId => act = .runtime (.deleteSnapshot snapshotId) ∨
      act = .journal (.deleteSnapshot snapshotId)
  | .destroy _ => act = .runtime (.destroy id) ∨ ∃ snapshotId,
      act = .runtime (.deleteSnapshot snapshotId) ∨ act = .journal (.deleteSnapshot snapshotId)
  | .fork _ source snapshotId _ requireCow _ _ =>
    ∃ spec guest, act = .runtime (.fork source snapshotId spec guest requireCow)
  | .restoreCapsule _ capsuleId _ _ =>
    ∃ spec guest, act = .runtime (.restoreFromObjects capsuleId spec guest)

/-- A program of loose, discreet actions, whose work is of a class. -/
def Performs {α : Type} (P : NodeAct → Prop) (program : NodeProg α) : Prop :=
  program.Emits fun act : NodeAct => (act.isLoose = true ∧ act.isDiscreet = true) ∧
    (act.isWork = true → P act)

namespace Performs

variable {agent : Agent} {P : NodeAct → Prop} {α β : Type} {program : NodeProg α}

theorem loose (performs : Performs P program) : Loose program :=
  Prog.Emits.mono (fun _ holds => holds.1.1) performs

theorem aside (performs : Performs (fun _ => False) program) : Aside program :=
  Prog.Emits.mono (fun _ holds => ⟨holds.1.1, Bool.eq_false_of_not_eq_true holds.2⟩) performs

theorem pure {value : α} : Performs P (.pure value : NodeProg α) := trivial

theorem seq {rest : α → NodeProg β} (first : Performs P program)
    (second : ∀ value, Performs P (rest value)) : Performs P (program.bind rest) :=
  Prog.Emits.bind first second

theorem act {act : NodeAct} (loose : act.isLoose = true) (discreet : act.isDiscreet = true)
    (holds : P act) : Performs P (perform act) :=
  ⟨⟨⟨loose, discreet⟩, fun _ => holds⟩, fun _ => trivial⟩

theorem idle {act : NodeAct} (loose : act.isLoose = true) (discreet : act.isDiscreet = true)
    (isIdle : act.isWork = false) : Performs P (perform act) :=
  ⟨⟨⟨loose, discreet⟩, fun work => (Bool.false_ne_true (isIdle.symm.trans work)).elim⟩,
    fun _ => trivial⟩

theorem consults (consults : Consults program) : Performs P program := by
  refine Prog.Emits.mono (fun act isConsult => ?_) consults
  obtain ⟨loose, aside⟩ := (Consults.act isConsult).aside.1
  refine ⟨⟨loose, ?_⟩, fun work => (Bool.false_ne_true (aside.symm.trans work)).elim⟩
  cases act with
  | journal query => cases query <;> first | rfl | cases isConsult
  | _ => rfl

theorem record {event : EventRow} (other : event.type ≠ .stateChanged) :
    Performs P (Events.record event) :=
  .seq (idle rfl (by simp [NodeAct.isDiscreet, other]) rfl) fun _ => .pure

theorem step (op : OperationRow) (name : String) : Performs P (Node.step op name) :=
  .seq (idle rfl rfl rfl) fun _ => record nofun

theorem degradeAll (op : OperationRow) (messages : List String) :
    Performs P (Node.degradeAll op messages) := by
  induction messages with
  | nil => exact .pure
  | cons message rest ih => exact .seq (record nofun) fun _ => ih

theorem degrade (op : OperationRow) (message : String) (work : Work) :
    Performs P (degrade op message work) :=
  .seq (record nofun) fun _ => .pure

theorem withRow (op : OperationRow) (vanished unreadable : String)
    {work : InstanceRow → NodeProg Work} (works : ∀ row, Performs P (work row)) :
    Performs P (withRow op vanished unreadable work) := by
  refine .seq (idle rfl rfl rfl) fun found => ?_
  split
  · exact works _
  · exact .pure
  · exact .pure

theorem recordSnapshot {id name : String} (snapshot : SnapshotInfo)
    (journals : ∀ act, Journals id name act → P act) :
    Performs P (recordSnapshot agent id snapshot name) :=
  .seq (idle rfl rfl rfl) fun _ => .seq (idle rfl rfl rfl) fun _ =>
    act rfl rfl (journals _ ⟨_, rfl, rfl, rfl⟩)

theorem runPause (op : OperationRow) (requireMemory : Bool) :
    Performs (fun act => (OpPayload.pause requireMemory).does op.instanceId act)
      (runPause agent op requireMemory) := by
  refine .seq (step ..) fun _ => .seq (idle rfl rfl rfl) fun hook =>
    .seq (degradeAll ..) fun _ => .seq (step ..) fun _ => .seq (act rfl rfl (.inl rfl))
      fun captured => ?_
  split
  · split
    · exact .pure
    · exact .seq (.seq (step ..) fun _ => .seq (recordSnapshot _ fun _ => .inr) fun _ =>
        .seq (degradeAll ..) fun _ => .pure) fun _ => .pure
  · exact .pure

theorem runResume (op : OperationRow) (snapshotId : Option String) (requireMemory : Bool)
    (epoch : Nat) :
    Performs (fun act => (OpPayload.resume snapshotId requireMemory).does op.instanceId act)
      (runResume agent op snapshotId requireMemory epoch) := by
  refine .seq (step ..) fun _ => .seq (consults (Consults.resolveRestore ..)) fun resolved => ?_
  dsimp only
  split
  · refine .seq (step ..) fun _ => .seq (act rfl rfl (.inl ⟨_, rfl⟩)) fun resumed => ?_
    split
    · exact .seq (idle rfl rfl rfl) fun _ => .seq (degradeAll ..) fun _ => .pure
    · exact .pure
  · refine .seq (step ..) fun _ => .seq (record nofun) fun _ => ?_
    split
    · exact .seq (act rfl rfl (.inr ⟨_, _, rfl⟩)) fun _ => .pure
    · exact .pure
  · exact .pure

theorem announceCapture (op : OperationRow) (froze : Bool) :
    Performs P (announceCapture op froze) := by
  unfold Node.announceCapture
  split
  · exact .seq (idle rfl rfl rfl) fun _ => step ..
  · exact step ..

theorem runCreateSnapshot (op : OperationRow) (name : Option String) (recorded : InstanceState) :
    Performs (fun act => (OpPayload.createSnapshot name).does op.instanceId act)
      (runCreateSnapshot agent op name recorded) := by
  refine .seq (step ..) fun _ => .seq (idle rfl rfl rfl) fun hook =>
    .seq (degradeAll ..) fun _ => .seq (announceCapture ..) fun _ =>
    .seq (act rfl rfl (.inl rfl)) fun captured => ?_
  split
  · refine .seq (step ..) fun _ =>
      .seq (recordSnapshot _ fun _ journals => .inr (.inl journals)) fun journaled => ?_
    split
    · exact .pure
    · refine .seq (.seq (step ..) fun _ => .seq (act rfl rfl (.inr (.inr ⟨_, rfl⟩)))
        fun undone => ?_) fun _ => .pure
      split
      · exact .pure
      · exact degrade ..
  · exact .pure

theorem runDeleteSnapshot (op : OperationRow) (snapshotId : String) :
    Performs (fun act => (OpPayload.deleteSnapshot snapshotId).does op.instanceId act)
      (runDeleteSnapshot op snapshotId) := by
  refine .seq (step ..) fun _ => .seq (act rfl rfl (.inl rfl)) fun deleted => ?_
  split
  · refine .seq (step ..) fun _ => .seq (act rfl rfl (.inr rfl)) fun forgotten => ?_
    split
    · exact .pure
    · exact degrade ..
  · exact .pure

theorem forgetEach (op : OperationRow) (snapshots : List SnapshotRow)
    (deletes : ∀ act snapshotId, act = .runtime (.deleteSnapshot snapshotId) ∨
      act = .journal (.deleteSnapshot snapshotId) → P act) : Performs P
        (forgetEach op snapshots) := by
  induction snapshots with
  | nil => exact .pure
  | cons snapshot rest ih =>
    have forgets : Performs P (forgetSnapshot snapshot.snapshotId) := by
      refine .seq (act rfl rfl (deletes _ _ (.inl rfl))) fun deleted => ?_
      split
      · exact .pure
      · refine .seq (act rfl rfl (deletes _ _ (.inr rfl))) fun forgotten => ?_
        split <;> exact .pure
    exact .seq forgets fun left => .seq (degradeAll ..) fun _ =>
      .seq ih fun _ => .pure

theorem runDestroy (op : OperationRow) (keepSnapshots : Bool) :
    Performs (fun act => (OpPayload.destroy keepSnapshots).does op.instanceId act)
      (runDestroy op keepSnapshots) := by
  refine .seq (step ..) fun _ => .seq (act rfl rfl (.inl rfl)) fun destroyed => ?_
  split
  · split
    · exact .pure
    · refine .seq (step ..) fun _ => .seq (.seq (idle rfl rfl rfl) fun listed => ?_)
        fun _ => .pure
      split
      · exact forgetEach op _ fun _ snapshotId deletes => .inr ⟨snapshotId, deletes⟩
      · exact .seq (degradeAll ..) fun _ => .pure
  · exact .pure

theorem runFork (op : OperationRow) (spec : InstanceSpec) (source snapshotId : String)
    (lineage : Lineage) (requireCow : Bool) (token : String) (identity : Option Identity) :
    Performs (fun act => (OpPayload.fork spec source snapshotId lineage requireCow token
      identity).does op.instanceId act) (runFork op source snapshotId requireCow) := by
  refine .seq (step ..) fun _ => withRow _ _ _ fun row => .seq (act rfl rfl ⟨_, _, rfl⟩)
    fun outcome => ?_
  split
  · exact .seq (idle rfl rfl rfl) fun _ => .seq (degradeAll ..) fun _ =>
      .seq (record nofun) fun _ => .pure
  · exact .pure

theorem runRestoreCapsule (op : OperationRow) (spec : InstanceSpec) (capsuleId snapshotId : String)
    (lineage : Lineage) :
    Performs (fun act => (OpPayload.restoreCapsule spec capsuleId snapshotId lineage).does
      op.instanceId act) (runRestoreCapsule op capsuleId snapshotId) := by
  refine .seq (step ..) fun _ => .seq (idle rfl rfl rfl) fun loaded => ?_
  split
  · exact .pure
  · refine .seq (step ..) fun _ => withRow _ _ _ fun row =>
      .seq (act rfl rfl ⟨_, _, rfl⟩) fun restored => ?_
    split
    · exact .seq (record nofun) fun _ => .pure
    · exact .pure

/-- **What the runtime's part of an operation does.** -/
theorem runPayload (op : OperationRow) (recorded : InstanceState) (epoch : Nat)
    (payload : OpPayload) :
    Performs (fun act => payload.does op.instanceId act)
    (runPayload agent op recorded epoch payload) := by
  cases payload with
  | create spec =>
    exact .seq (step ..) fun _ => withRow _ _ _ fun row => .seq (act rfl rfl ⟨_, rfl⟩)
      fun _ => .pure
  | start =>
    exact .seq (step ..) fun _ => withRow _ _ _ fun row => .seq (act rfl rfl ⟨_, _, rfl⟩)
      fun _ => .pure
  | stop graceSeconds => exact .seq (step ..) fun _ => .seq (act rfl rfl rfl) fun _ => .pure
  | pause requireMemory => exact runPause ..
  | resume snapshotId requireMemory => exact runResume ..
  | createSnapshot name => exact runCreateSnapshot ..
  | deleteSnapshot snapshotId => exact runDeleteSnapshot ..
  | destroy keepSnapshots => exact runDestroy ..
  | fork => exact runFork ..
  | restoreCapsule => exact runRestoreCapsule ..

theorem compensate (kind : OpKind) (op : OperationRow) (work : Work) :
    Performs (fun act => act = .runtime (.removeOrphan op.instanceId) ∧
      (kind = .create ∨ kind = .fork)) (compensate agent kind op work) := by
  unfold Node.compensate
  split
  · exact .pure
  · refine .seq ?_ fun _ => ?_
    · unfold whenever
      split
      · next creates => exact .seq (act rfl rfl ⟨rfl, creates⟩) fun _ => .pure
      · exact .pure
    · unfold reportUnavailable
      split
      · exact .seq (record nofun) fun _ => .pure
      · exact .pure

end Performs

namespace Loose

variable {agent : Agent} {α β : Type}

theorem pure {value : α} : Loose (.pure value : NodeProg α) := trivial

theorem seq {program : NodeProg α} {rest : α → NodeProg β} (first : Loose program)
    (second : ∀ value, Loose (rest value)) : Loose (program.bind rest) :=
  Prog.Emits.bind first second

theorem act {act : NodeAct} (loose : act.isLoose = true) : Loose (perform act) :=
  ⟨loose, fun _ => trivial⟩

theorem record (event : EventRow) : Loose (Events.record event) := (Aside.record event).loose

theorem whenever {condition : Prop} [Decidable condition] {program : NodeProg Unit}
    (assembled : Loose program) : Loose (whenever condition program) := by
  unfold Node.whenever
  split
  · exact assembled
  · exact .pure

theorem step (op : OperationRow) (name : String) : Loose (step op name) :=
  (Performs.step op name : Performs (fun _ => False) _).loose

theorem runPayload (op : OperationRow) (recorded : InstanceState) (epoch : Nat)
    (payload : OpPayload) : Loose (runPayload agent op recorded epoch payload) :=
  (Performs.runPayload ..).loose

theorem compensate (kind : OpKind) (op : OperationRow) (work : Work) :
    Loose (compensate agent kind op work) :=
  (Performs.compensate ..).loose

end Loose

/-- What is known of every lease in hand, under the name it is held, of every row a caller was
answered with, under the id it asked for, and of the fork it was asked for. -/
structure Known where
  lease : String → Held → Prop
  row : String → InstanceRow → Prop
  fork : ForkRequest → Prop

def Known.ofLeases (lease : String → Held → Prop) : Known := ⟨lease, fun _ _ => True, fun _ => True⟩

/-- What may be submitted, by the entrance it comes through: an admitted spec, the spec of a row
the caller was answered with, a restore under the target's own name, a verb on an instance, or the
action of a deadline under the key derived from it. -/
inductive Entered (agent : Agent) (known : Known) :
    (instanceId key : String) → OpPayload → Option Claim → Prop
  | create {spec : InstanceSpec} {key : String} {requireHardwareIsolation : Bool}
      (admitted : admitSpec agent spec requireHardwareIsolation = .ok ()) :
      Entered agent known spec.instanceId key (.create spec) none
  | fork {request : ForkRequest} {sourceId : String} {source : InstanceRow}
      (asked : known.fork request) (read : known.row sourceId source) :
      Entered agent known request.targetInstanceId request.key
        (.fork { source.spec with instanceId := request.targetInstanceId } sourceId
          request.sourceSnapshotId (forkLineage source request.sourceSnapshotId)
          request.requireCow source.guestToken source.identity) none
  | capsule {request : ForkRequest} {spec : InstanceSpec} {capsuleId : String} {lineage : Lineage}
      (asked : known.fork request) (given : request.targetSpec = some spec) :
      Entered agent known request.targetInstanceId request.key
        (.restoreCapsule { spec with instanceId := request.targetInstanceId } capsuleId
          ("capsule:" ++ capsuleId) lineage) none
  | verb {instanceId key : String} {payload : OpPayload} (plain : createSpec payload = none)
      (named : payload ≠ .createSnapshot (some "")) : Entered agent known instanceId
      key payload none
  | ttl {instanceId : String} {deadlineMs : Int} (resolution : Resolved) :
      Entered agent known instanceId (ttlKey instanceId deadlineMs) resolution.payload
        (some (.ttlExpiry deadlineMs))
  | wake {instanceId : String} {wakeAtMs : Int} {payload : OpPayload}
      (wakes : payload = .resume none false ∨ payload = .start) :
      Entered agent known instanceId (wakeKey instanceId wakeAtMs) payload (some (.wake wakeAtMs))

theorem Resolved.entered {agent : Agent} {known : Known} (resolution : Resolved)
    (instanceId key : String) : Entered agent known instanceId key resolution.payload none := by
  cases resolution <;> exact .verb rfl nofun

theorem capsuleIdFromSnapshotId_some {snapshotId capsuleId : String}
    (parsed : capsuleIdFromSnapshotId snapshotId = some capsuleId) :
    snapshotId = "capsule:" ++ capsuleId := by
  unfold capsuleIdFromSnapshotId at parsed
  split at parsed
  · next shape =>
      cases parsed
      have joined := List.take_append_drop 8 snapshotId.toList
      rw [shape.1] at joined
      apply String.toList_injective
      simpa [String.toList_append] using joined.symm
  · cases parsed

/-- What the programs of the node are assembled from, with what each piece returns. -/
inductive Section (agent : Agent) (permit : Permit) (known : Known) :
    {α : Type} → NodeProg α → (α → Prop) → Prop
  | act (act : NodeAct) (allowed : permit.allows act = true) (aside : act.isWork = false) :
      Section agent permit known (perform act) fun _ => True
  | surrender (request : Query) (surrenders : request.isSurrender = true)
      (permitted : permit.ticks = true) :
      Section agent permit known (query request) fun _ => True
  | fail (id : String) (permitted : permit.fails = true) :
      Section agent permit known (query (.setInstanceState id .failed)) fun _ => True
  | held : Section agent permit known readHeld fun held =>
    ∀ (name : String) lease, held[name]? = some lease → known.lease name lease
  | row (permitted : permit = .caller) (id : String) :
      Section agent permit known (query (.getInstance id)) fun answer => ∀ row,
        answer = .ok (some row) → known.row id row
  | submit (permitted : permit.submits = true) (instanceId key : String) (payload : OpPayload)
      (claim : Option Claim) (entered : Entered agent known instanceId key payload claim)
      (announce : String → List EventRow) :
      Section agent permit known
        (submitClaiming agent payload.kind instanceId key payload claim announce) fun _ => True
  | stamp (instanceId : String) :
      Section agent permit known (stampLeaseState instanceId) fun _ => True
  | renew (permitted : permit = .member) (name : String) (acc : Renewals) :
      Section agent permit known (renewOne agent name acc) fun _ => True
  | reacquire (permitted : permit = .member) (name : String) :
      Section agent permit known (reacquireOne agent name) fun outcome => ∀ held,
        outcome = .ok (.held held) → known.lease name held
  | custody (permitted : permit = .member) (name : String) (report : PassReport) :
      Section agent permit known (custodyOf agent name report) fun custody => ∀ held report,
        custody = .ours held report → known.lease name held
  | name (permitted : permit = .member) (name : String) (held : Held)
      (owned : known.lease name held)
      (instanceId recordId : String) (realising : Realising) (report : PassReport) :
      Section agent permit known
        (nameInstance agent name held instanceId recordId realising report) fun _ => True
  | release (permitted : permit = .member) (name : String) (held : Held)
      (owned : known.lease name held) (report : PassReport) :
      Section agent permit known (releaseHeld name held report) fun _ => True

abbrev Sectioned (agent : Agent) (permit : Permit) (known : Known) {α : Type}
    (program : NodeProg α) : Prop :=
  Prog.Assembled (Section agent permit known) program fun _ => True

namespace Sectioned

variable {agent : Agent} {permit : Permit} {known : Known} {α β : Type}

theorem act {act : NodeAct} (allowed : permit.allows act = true) (aside : act.isWork = false) :
    Sectioned agent permit known (perform act) :=
  .piece (.act act allowed aside)

theorem aside {program : NodeProg α} (acts : permit.acts = true) (aside : Aside program) :
    Sectioned agent permit known program := by
  induction program with
  | pure value => exact .pure trivial
  | step action next ih =>
    have allowed : permit.allows action = true := by
      simpa [Permit.allows, acts] using aside.1.1
    exact .seq (act allowed aside.1.2) fun answer => ih answer (aside.2 answer)

theorem record (event : EventRow) : Sectioned agent permit known (Events.record event) :=
  .seq (act rfl rfl) fun _ => .pure trivial

theorem whenever {condition : Prop} [Decidable condition] {program : NodeProg Unit}
    (assembled : Sectioned agent permit known program) :
    Sectioned agent permit known (whenever condition program) := by
  unfold Node.whenever
  split
  · exact assembled
  · exact .pure trivial

theorem submit (permitted : permit.submits = true) {instanceId key : String}
    (payload : OpPayload) (entered : Entered agent known instanceId key payload none) :
    Sectioned agent permit known (submit agent payload.kind instanceId key payload) := by
  refine .seq (.piece (.submit permitted instanceId key payload none entered _)) fun outcome => ?_
  split <;> exact .pure trivial

theorem announceFinish (op : OperationRow) (settled : InstanceState)
    (stopReason : Option StopReason) (epoch : Option Nat) (succeeded : Bool)
    (finalized : Finalized) :
    Sectioned agent permit known
      (announceFinish op settled stopReason epoch succeeded finalized) := by
  refine .seq (whenever (record _)) fun _ => .seq (record _) fun _ =>
    .seq (.piece (.stamp _)) fun _ => ?_
  split
  · exact whenever (record _)
  · exact .pure trivial

theorem selfFence (permitted : permit.submits = true) (name instanceId : String) :
    Sectioned agent permit known (selfFence agent name instanceId) := by
  refine .seq (record _) fun _ => ?_
  split
  · exact record _
  · exact .seq (submit permitted (.stop 5) (.verb rfl nofun)) fun _ => .pure trivial

theorem surrender {request : Query} (permitted : permit.ticks = true)
    (surrenders : request.isSurrender = true) : Sectioned agent permit known (query request) :=
  .piece (.surrender request surrenders permitted)

theorem fenceAndConfirm (submits : permit.submits = true) (ticks : permit.ticks = true)
    (name instanceId : String) :
    Sectioned agent permit known (fenceAndConfirm agent name instanceId) := by
  refine .seq (surrender ticks rfl) fun _ => .seq (selfFence submits _ _) fun _ => ?_
  split
  · exact .seq (surrender ticks rfl) fun _ => .pure trivial
  · refine .seq (act rfl rfl) fun found => ?_
    split
    · exact .seq (surrender ticks rfl) fun _ => .pure trivial
    · exact .pure trivial

theorem fenceAll (fenced : List (String × String)) :
    Sectioned agent .member known (fenceAll agent fenced) := by
  induction fenced with
  | nil => exact .pure trivial
  | cons entry rest ih =>
    exact .seq (fenceAndConfirm rfl rfl _ _) fun _ => ih

theorem renewAll (names : List String) (acc : Renewals) :
    Sectioned agent .member known (renewAll agent names acc) := by
  induction names generalizing acc with
  | nil => exact .pure trivial
  | cons name rest ih =>
    exact .seq (.piece (.renew rfl _ _)) fun acc => ih acc

theorem reportOutage (reachedBucket : Bool) :
    Sectioned agent .member known (reportOutage agent reachedBucket) := by
  have announced : ∀ held : List (String × Held), Sectioned agent .member known
    (announceOutage agent held) := by
    intro held
    induction held with
    | nil => exact .pure trivial
    | cons entry rest ih => exact .seq (record _) fun _ => ih
  refine .seq (act rfl rfl) fun due => ?_
  split
  · exact .seq (.piece .held) fun held => announced _
  · exact .pure trivial

theorem reacquire (desired : List String) (rows : List HeldLeaseRow)
    {candidates : List (String × Held)}
    (owned : ∀ entry ∈ candidates, known.lease entry.1 entry.2) :
    Prog.Assembled (Section agent .member known) (reacquire agent desired rows candidates)
      fun outcome => ∀ found, outcome = some found → ∀ entry ∈ found,
        known.lease entry.1 entry.2 := by
  induction rows generalizing candidates with
  | nil =>
    refine .pure ?_
    rintro found ⟨⟩
    exact owned
  | cons row rest ih =>
    unfold Node.reacquire
    split
    · exact ih owned
    · refine .bind (.piece (.reacquire rfl row.name)) fun outcome acquired => ?_
      split
      · refine ih fun entry member => ?_
        rcases List.mem_append.mp member with old | new
        · exact owned entry old
        · rw [List.mem_singleton.mp new]
          exact acquired _ rfl
      · exact ih owned
      · exact .pure (by simp)

variable {held : Held}

theorem sweepOne (desired : List String) (name : String) (owned : known.lease name held)
    (report : PassReport) :
    Sectioned agent .member known (sweepOne agent desired name held report) := by
  refine .seq (aside rfl (Aside.journalState _)) fun found => ?_
  split
  · exact .pure trivial
  · split
    · exact .pure trivial
    · exact .seq (submit rfl (.destroy false) (.verb rfl nofun)) fun _ => .pure trivial
    · exact .piece (.release rfl _ _ owned _)

theorem sweepAll (desired : List String) {candidates : List (String × Held)}
    (owned : ∀ entry ∈ candidates, known.lease entry.1 entry.2) (report : PassReport) :
    Sectioned agent .member known (sweepAll agent desired candidates report) := by
  induction candidates generalizing report with
  | nil => exact .pure trivial
  | cons entry rest ih =>
    exact .seq (sweepOne _ _ (owned entry (by simp)) _) fun report =>
      ih (fun other member => owned other (by simp [member])) report

theorem releaseSweep (desired : List String) (report : PassReport) :
    Sectioned agent .member known (releaseSweep agent desired report) := by
  refine .bind (.piece .held) fun held owned => .seq (act rfl rfl) fun journaled => ?_
  have listed : ∀ entry ∈ held.toList, known.lease entry.1 entry.2 := fun entry member =>
    owned entry.1 entry.2 (Std.TreeMap.mem_toList_iff_getElem?_eq_some.mp member)
  refine .bind (reacquire _ _ listed) fun outcome found => ?_
  split
  · exact .pure trivial
  · exact sweepAll _ (found _ rfl) _

variable {spec : InstanceSpec}

theorem materialiseVerb_entered {coldBoot : Bool} {state : Option InstanceState} {kind : OpKind}
    {payload : OpPayload} {verb key : String} (admitted : admitSpec agent spec false = .ok ())
    (chosen : materialiseVerb spec coldBoot state = some (kind, payload, verb)) :
    kind = payload.kind ∧ Entered agent known spec.instanceId key payload none := by
  unfold materialiseVerb at chosen
  split at chosen
  · cases chosen
    exact ⟨rfl, .create admitted⟩
  · split at chosen <;> · cases chosen; exact ⟨rfl, .verb rfl nofun⟩
  · cases chosen
    exact ⟨rfl, .verb rfl nofun⟩
  · cases chosen
    exact ⟨rfl, .verb rfl nofun⟩
  · cases chosen

theorem materialise (name : String) (admitted : admitSpec agent spec false = .ok ()) (epoch : Nat)
    (coldBoot : Bool) : Sectioned agent .member known
      (materialise agent name spec epoch coldBoot) := by
  refine .seq (act rfl rfl) fun known => ?_
  split
  · exact .pure trivial
  · next kind payload verb chosen =>
    obtain ⟨sameKind, entered⟩ := materialiseVerb_entered admitted chosen
    rw [sameKind]
    refine .seq (submit rfl payload entered) fun outcome => ?_
    split
    · exact .pure trivial
    · exact .seq (whenever (record _)) fun _ => .pure trivial

theorem materialiseNamed (name : String) (owned : known.lease name held)
    (admitted : admitSpec agent spec false = .ok ()) (recordId : String) (realising : Realising)
    (coldBoot : Bool) (report : PassReport) : Sectioned agent .member known
      (materialiseNamed agent name held spec recordId realising coldBoot report) := by
  have named : Sectioned agent .member known
      (ensureNamed agent name held spec.instanceId recordId realising report) := by
    unfold ensureNamed
    split
    · exact .pure trivial
    · exact .piece (.name rfl _ _ owned _ _ _ _)
  refine .seq named fun outcome => ?_
  split
  · exact .pure trivial
  · refine .seq (materialise _ admitted ..) fun advanced => ?_
    split <;> exact .pure trivial

theorem realiseSpec (holdsReported : List String) (want : Desired)
    (owned : known.lease want.name held) (spec : InstanceSpec) (recordId : String)
    (realising : Realising) (report : PassReport) : Sectioned agent .member known
      (realiseSpec agent holdsReported want held spec recordId realising report) := by
  unfold Node.realiseSpec
  split
  · exact .seq (record _) fun _ => .pure trivial
  · next admitted =>
    refine .seq (act rfl rfl) fun realised => ?_
    split
    · exact .pure trivial
    · exact .pure trivial
    · exact .seq (aside rfl (Aside.holdWithout ..)) fun _ => .pure trivial
    · exact materialiseNamed _ owned admitted ..

theorem realise (holdsReported : List String) (want : Desired) (owned : known.lease want.name held)
    (report : PassReport) :
    Sectioned agent .member known (realise agent holdsReported want held report) := by
  unfold Node.realise
  split
  · exact .pure trivial
  · refine .seq (aside rfl (Aside.journalState _)) fun record =>
      .seq (aside rfl (Aside.journalState _)) fun lease => ?_
    split
    · exact .seq (aside rfl (Aside.realisingId ..)) fun id => realiseSpec _ _ owned ..
    · exact .pure trivial

theorem takeTurn (holdsReported : List String) (want : Desired) (report : PassReport) :
    Sectioned agent .member known (takeTurn agent holdsReported want report) := by
  refine .bind (.piece (.custody rfl want.name report)) fun custody ours => ?_
  split
  · exact .seq (realise _ _ (ours _ _ rfl) _) fun _ => .pure trivial
  · exact .pure trivial
  · exact .pure trivial

theorem realiseAll (holdsReported : List String) (records : List Desired) (report : PassReport) :
    Sectioned agent .member known (realiseAll agent holdsReported records report) := by
  induction records generalizing report with
  | nil => exact .pure trivial
  | cons want rest ih =>
    refine .seq (takeTurn ..) fun turn => ?_
    obtain ⟨report, goOn⟩ := turn
    dsimp only
    split
    · exact ih report
    · exact .pure trivial

theorem actOn (holdsReported : List String) (listing : DesiredSet) (report : PassReport) :
    Sectioned agent .member known (actOn agent holdsReported listing report) :=
  .seq (releaseSweep ..) fun _ => realiseAll ..

theorem converge (report : PassReport) : Sectioned agent .member known (converge agent report) := by
  unfold Node.converge
  split
  · exact .pure trivial
  · refine .seq (act rfl rfl) fun holdsReported => .seq (aside rfl Aside.desired) fun listing => ?_
    split
    · exact .pure trivial
    · exact actOn ..

theorem pass : Sectioned agent .member known (pass agent) :=
  .seq (.piece .held) fun _ => .seq (renewAll ..) fun _ => .seq (whenever (reportOutage _)) fun _ =>
    .seq (fenceAll _) fun _ => converge _

theorem recoverRow (row : HeldLeaseRow) : Sectioned agent .booter known (recoverRow agent row) := by
  refine .seq (aside rfl (Aside.resolve _)) fun resolved => ?_
  split
  · split
    · exact .pure trivial
    · exact .seq (fenceAndConfirm rfl rfl _ _) fun _ => .pure trivial
  · exact .seq (fenceAndConfirm rfl rfl _ _) fun _ => .pure trivial
  · exact .pure trivial

theorem recover : Sectioned agent .booter known (recover agent) := by
  have recovered : ∀ rows : List HeldLeaseRow, Sectioned agent .booter known
    (recoverAll agent rows) := by
    intro rows
    induction rows with
    | nil => exact .pure trivial
    | cons row rest ih =>
      refine .seq (recoverRow row) fun goOn => ?_
      split
      · exact ih
      · exact .pure trivial
  refine .seq (act rfl rfl) fun rows => ?_
  split
  · exact .pure trivial
  · exact recovered _

theorem failVanished (fails : permit.fails = true) (id : String) :
    Sectioned agent permit known (failVanished id) := by
  have settled : Sectioned agent permit known (setInstanceState id .failed) := by
    refine .seq (.piece (.fail id fails)) fun outcome => ?_
    split <;> exact .pure trivial
  refine .seq settled fun outcome => ?_
  split
  · exact .pure trivial
  · exact .seq (record _) fun _ => .seq (record _) fun _ => .pure trivial

theorem countVanished (fails : permit.fails = true) (present running : List String)
    (counts : List (String × Nat)) :
    Sectioned agent permit known (countVanished present running counts) := by
  induction running generalizing counts with
  | nil => exact .pure trivial
  | cons id rest ih =>
    unfold Node.countVanished
    dsimp only
    split
    · exact ih _
    · split
      · exact ih _
      · exact .seq (failVanished fails id) fun gone =>
          .seq (ih _) fun _ => .pure trivial

theorem reconcileVanished (acts : permit.acts = true) (fails : permit.fails = true) :
    Sectioned agent permit known (reconcileVanished agent) := by
  have stamped : ∀ ids : List String, Sectioned agent permit known (stampAll ids) := by
    intro ids
    induction ids with
    | nil => exact .pure trivial
    | cons id rest ih =>
      exact .seq (.piece (.stamp _)) fun _ => ih
  unfold Node.reconcileVanished
  split
  · exact .pure trivial
  · refine .seq (act (by simp [Permit.allows, acts, NodeAct.isLoose]) rfl) fun listing => ?_
    split
    · exact .pure trivial
    · refine .seq (act rfl rfl) fun rows => ?_
      split
      · exact .pure trivial
      · exact .seq (act rfl rfl) fun counts => .seq (countVanished fails ..) fun _ =>
          .seq (act rfl rfl) fun _ => stamped _

/-! ### Requests and the reconciler's other phases -/

theorem wakeAction_submit {state : InstanceState} {payload : OpPayload} {kind verb : String}
    (submitted : wakeAction state = .submit payload kind verb) :
    payload = .resume none false ∨ payload = .start := by
  unfold wakeAction at submitted
  split_ifs at submitted
  · cases submitted
    exact .inl rfl
  · cases submitted
    exact .inr rfl

section Callers

variable (acts : permit.acts = true) (submits : permit.submits = true)
include submits

theorem submitFor {key id : String} {payload : OpPayload}
    (entered : Entered agent known id key payload none) :
    Sectioned agent permit known (submitFor agent key id payload) := by
  refine .seq (submit submits payload entered) fun outcome => ?_
  split <;> exact .pure trivial

theorem fireDeadline {id key : String} {payload : OpPayload} {claim : Claim}
    (entered : Entered agent known id key payload (some claim)) (announce : String → List EventRow)
    (failed : SubmitError → String) :
    Sectioned agent permit known (fireDeadline agent id key payload claim announce failed) := by
  refine .seq (.piece (.submit submits id key payload (some claim) entered announce))
    fun outcome => ?_
  split
  · exact .pure trivial
  · split
    · exact .pure trivial
    · exact record _

theorem enforceIdle (row : InstanceRow) (health : Health) :
    Sectioned agent permit known (enforceIdle agent row health) := by
  unfold Node.enforceIdle
  split
  · exact .pure trivial
  · exact .seq (.piece (.submit submits _ _ _ _ (Resolved.entered ..) _)) fun _ => .pure trivial

include acts

theorem enforceTtl (row : InstanceRow) : Sectioned agent permit known (enforceTtl agent row) := by
  unfold Node.enforceTtl
  split
  · exact .pure trivial
  · refine .seq (aside acts (Aside.act rfl rfl)) fun now => ?_
    split
    · exact .pure trivial
    · exact fireDeadline submits (.ttl _) _ _

theorem fireDueWake (row : InstanceRow) : Sectioned agent permit known (fireDueWake agent row) := by
  unfold Node.fireDueWake
  split
  · exact .pure trivial
  · refine .seq (aside acts (Aside.act rfl rfl)) fun now => ?_
    split
    · exact .pure trivial
    · split
      · exact .pure trivial
      · refine .seq (aside acts (Aside.act rfl rfl)) fun claimed => ?_
        split
        · exact record _
        · exact .pure trivial
      · next submitted => exact fireDeadline submits (.wake (wakeAction_submit submitted)) _ _

theorem scan : Sectioned agent permit known (scan agent) := by
  have each {phase : InstanceRow → NodeProg Unit}
      (phased : ∀ row, Sectioned agent permit known (phase row)) (rows : List InstanceRow) :
      Sectioned agent permit known (forRows phase rows) := by
    induction rows with
    | nil => exact .pure trivial
    | cons row rest ih => exact .seq (phased row) fun _ => ih
  refine .seq (aside acts (Aside.act rfl rfl)) fun listed => ?_
  split
  · exact .pure trivial
  · exact .seq (each (fireDueWake acts submits) _) fun _ => each (enforceTtl acts submits) _

theorem probe (id : String) : Sectioned agent permit known (probe agent id) := by
  have probed (row : InstanceRow) : Sectioned agent permit known (probeReadiness agent row) := by
    refine .seq (aside acts (Aside.act rfl rfl)) fun connected => ?_
    split
    · exact .pure trivial
    · refine .seq (aside acts (Aside.act rfl rfl)) fun answered => ?_
      split
      · exact .pure trivial
      · exact .seq (aside acts (Aside.act rfl rfl)) fun changed =>
          .seq (whenever (record _)) fun _ => enforceIdle submits ..
  refine .seq (aside acts (Aside.act rfl rfl)) fun found => ?_
  split
  · exact whenever (probed _)
  · exact .pure trivial

theorem restoreImportedCapsule {request : ForkRequest} (asked : known.fork request) :
    Sectioned agent permit known (restoreImportedCapsule agent request) := by
  unfold Node.restoreImportedCapsule
  split
  · exact .pure trivial
  · next capsuleId parsed =>
    split_ifs
    · exact .pure trivial
    · exact .pure trivial
    · exact .pure trivial
    · split
      · exact .pure trivial
      · next given =>
        refine .seq (aside acts (Aside.act rfl rfl)) fun found => ?_
        split
        · exact .pure trivial
        · exact .pure trivial
        · split
          · exact .pure trivial
          · refine submitFor submits ?_
            rw [capsuleIdFromSnapshotId_some parsed]
            exact .capsule asked given

theorem deleteSnapshot (key snapshotId : String) :
    Sectioned agent permit known (deleteSnapshot agent key snapshotId) := by
  refine .seq (aside acts (Aside.act rfl rfl)) fun found => ?_
  split
  · exact .pure trivial
  · refine .seq (aside acts (Aside.act rfl rfl)) fun original => ?_
    split
    · exact .pure trivial
    · split <;> exact .pure trivial
  · exact submitFor submits (.verb rfl nofun)

theorem resumeInstance (key : String) (target : Option ResumeTarget) (requireMemory : Bool) :
    Sectioned agent permit known (resumeInstance agent key target requireMemory) := by
  unfold Node.resumeInstance
  split
  · exact submitFor submits (.verb rfl nofun)
  · refine .seq (aside acts (Aside.act rfl rfl)) fun found => ?_
    split
    · exact .pure trivial
    · exact .pure trivial
    · exact submitFor submits (.verb rfl nofun)
  · exact .pure trivial

end Callers

theorem forkLocal {request : ForkRequest} (asked : known.fork request) (sourceId : String) :
    Sectioned agent .caller known (forkLocal agent request sourceId) := by
  unfold Node.forkLocal
  split_ifs
  · exact .pure trivial
  · exact .pure trivial
  · refine .bind (.piece (.row rfl sourceId)) fun found read => ?_
    split
    · exact .pure trivial
    · exact .pure trivial
    · exact submitFor rfl (.fork asked (read _ rfl))

theorem forkInstance {request : ForkRequest} (asked : known.fork request) :
    Sectioned agent .caller known (forkInstance agent request) := by
  unfold Node.forkInstance
  split_ifs
  · exact .pure trivial
  · exact .pure trivial
  · refine .seq (aside rfl (Aside.act rfl rfl)) fun found => ?_
    split
    · exact .pure trivial
    · exact .pure trivial
    · split
      · exact restoreImportedCapsule rfl rfl asked
      · exact forkLocal asked _

theorem serve (request : Rpc) (asked : ∀ fork, request = .forkInstance fork → known.fork fork) :
    Sectioned agent .caller known (request.serve agent) := by
  cases request with
  | createInstance key spec requireHardwareIsolation =>
    simp only [Rpc.serve, createInstance]
    split
    · exact .pure trivial
    · split
      · exact .pure trivial
      · next admitted => exact submitFor rfl (.create admitted)
  | startInstance | stopInstance | destroyInstance => exact submitFor rfl (.verb rfl nofun)
  | pauseInstance key id keepMemory requireMemory =>
    simp only [Rpc.serve, pauseInstance]
    split
    · exact .pure trivial
    · exact submitFor rfl (.verb rfl nofun)
  | resumeInstance => exact resumeInstance rfl rfl ..
  | createSnapshot key id name =>
    simp only [Rpc.serve, createSnapshot]
    split_ifs
    · exact .pure trivial
    · exact .pure trivial
    · exact submitFor rfl (.verb rfl nofun)
    · next named => exact submitFor rfl (.verb rfl (by simpa using named))
  | deleteSnapshot => exact deleteSnapshot rfl rfl ..
  | forkInstance fork => exact forkInstance (asked fork rfl)

end Sectioned

end Barista.Node
