import Barista.Node.Standby

/-!
Contract: which memory image a resume hands to the guest.

A resume that names the latest snapshot of its instance, or none, asks the substrate to restore in
place; any other names its snapshot to the substrate. Which image is in place the substrate alone
knows.

Owns: what a resume restores along every orderly history, and histories in which it restores
something else.
-/

namespace Barista.Node

open Foundation Fleet
open Prog (After Ran)

namespace Deployed

section Resumes

variable {etags : LeaseVersioning} {node : Deployed} {index : Nat}
  {executor : Executor} {id : String} {snapshotId : Option String} {requireMemory : Bool}

theorem Standing.in_place (standing : Standing etags node)
    {continuation : Except RuntimeError Unit → NodeProg Unit} (found : node.system.tasks[index]? =
      some ⟨.executor executor, .step (.runtime (.resume id none)) continuation⟩)
    (resumes : executor.payload = .resume snapshotId requireMemory) :
    ∃ image record current, node.standby id = some image ∧ image.Recorded record ∧
      ⟨.journal (.getSnapshot record.snapshotId), .ok (some record)⟩ ∈ node.traces index ∧
      Restore.decide node.agent (some record) current requireMemory = .fromMemory ∧
      ∀ named, snapshotId = some named → named = record.snapshotId := by
  obtain ⟨unfinished, reads, row, decision, inside, resolved, acts⟩ :=
    resume_acts standing.accounted found resumes rfl
  rcases acts with ⟨rfl, same⟩ | ⟨_, _, _, _, -, -, _, _, boots⟩
  swap
  · cases boots
  obtain ⟨rfl, inPlace⟩ := RuntimeCall.resume.inj (NodeAct.runtime.inj same)
  have holds := standing.accounted.executing found unfinished
  obtain ⟨_, present, image, stands, -⟩ := standing.ties _ (resuming_rests holds resumes)
  rw [Journal.getInstance_named present] at stands
  have heard := standing.resuming found resumes unfinished image stands
  obtain ⟨-, onInstance⟩ := standby_cases stands
  obtain ⟨current, record, named, rfl, read, looked, decided, asked⟩ := fromMemory_reads resolved
  obtain ⟨nonempty, records⟩ := heard _ (inside looked)
  -- The pointer that led to the record, or was found equal to the id that was asked for.
  have pointer {row : InstanceRow} (points : row.latestSnapshotId = named)
      (read : ⟨.journal (.getInstance executor.op.instanceId), .ok (some row)⟩ ∈ reads) :
      named = image.snapshot.snapshotId := by
    obtain ⟨_, ⟨⟩, -, unset | set, -⟩ := heard _ (inside read) onInstance.symm
    · exact absurd (points.symm.trans unset) (nonempty record rfl)
    · exact points.symm.trans set
  have isImage : named = image.snapshot.snapshotId := by
    rcases asked with rfl | ⟨-, -, earlier, points, first⟩
    · refine pointer ?_ read
      unfold resumeTarget at inPlace
      split at inPlace
      · next latest => exact (Option.some.inj latest).symm
      · cases inPlace
    · exact pointer points first
  have recorded := (records isImage).1 record rfl
  have isNamed : record.snapshotId = named := recorded.snapshotId.trans isImage.symm
  refine ⟨image, record, current, stands, recorded, isNamed ▸ inside looked, decided, ?_⟩
  intro other asks
  rcases asked with same | ⟨unasked, -⟩
  · rw [isNamed]
    exact Option.some.inj (asks.symm.trans same)
  · cases asks.symm.trans unasked

/-- The resume a task is about to make: the snapshot its operation names, the instance, and the
target it gives the substrate. -/
def resumingAt (node : Deployed) (index : Nat) : Option (Option String × String × Option String) :=
  match node.system.tasks[index]? with
  | some ⟨.executor ⟨_, _, .resume snapshotId _, _⟩, .step (.runtime (.resume id target)) _⟩ =>
    some (snapshotId, id, target)
  | _ => none

theorem resumingAt_cases {target : Option String}
    (resuming : node.resumingAt index = some (snapshotId, id, target)) :
    ∃ executor requireMemory continuation, node.system.tasks[index]? =
        some ⟨.executor executor, .step (.runtime (.resume id target)) continuation⟩ ∧
      executor.payload = .resume snapshotId requireMemory := by
  unfold resumingAt at resuming
  split at resuming
  · next found =>
      cases resuming
      exact ⟨_, _, _, found, rfl⟩
  · cases resuming

def steps (labels : List Label) : List Happening := labels.map .step

/-- The running instance is paused: its image, and the record of it, are `snapshot`. -/
def pausedSession : List Label :=
  System.leasedSession ++ System.ask (.pauseInstance "p" ulid none false) ::
    System.drive 5 0 56 5 ++ .launch 0 :: System.drive 6 0 61 25

/-- A client then asks for that snapshot, and its resume is about to call the substrate. -/
def resumedSession : List Happening :=
  steps (pausedSession ++
    System.ask (.resumeInstance "r" (some (.snapshotId "snapshot")) false) ::
    System.drive 7 0 86 6 ++ .launch 0 :: System.drive 8 0 92 13)

/-- **A resume by id is served the image captured under that id**, along every history in which
each pause journals its capture, under an id that no other record has, and no snapshot of a paused
instance is recorded: the substrate is given the id itself, or it is asked to restore in place
and the image in place is the one recorded under the id. -/
theorem resume_by_id_serves_its_image (agent : Agent)
    (etags : LeaseVersioning) (history : List Happening) (node : Deployed)
    (index : Nat) (executor : Executor) (id snapshotId : String) (target : Option String)
    (requireMemory : Bool) (continuation : Except RuntimeError Unit → NodeProg Unit)
    (reached : reach agent etags history = some node) (orderly : Along (next etags)
      (fun before happening _ => before.Orderly etags happening) (fresh agent) history)
    (found : node.system.tasks[index]? =
      some ⟨.executor executor, .step (.runtime (.resume id target)) continuation⟩)
    (names : executor.payload = .resume (some snapshotId) requireMemory) :
    target = some snapshotId ∨
      (target = none ∧ ∃ image record, node.standby id = some image ∧ image.Recorded record ∧
        record.snapshotId = snapshotId ∧
        ⟨.journal (.getSnapshot snapshotId), .ok (some record)⟩ ∈ node.traces index) := by
  have standing := reach_standing reached orderly
  obtain ⟨-, reads, row, decision, -, -, acts⟩ := resume_acts standing.accounted found names rfl
  rcases acts with ⟨-, same⟩ | ⟨_, _, _, _, -, -, _, _, boots⟩
  swap
  · cases boots
  obtain ⟨-, chosen⟩ := RuntimeCall.resume.inj (NodeAct.runtime.inj same)
  unfold resumeTarget at chosen
  split at chosen
  · subst chosen
    obtain ⟨image, record, -, stands, recorded, read, -, named⟩ := standing.in_place found names
    obtain rfl := named snapshotId rfl
    exact .inr ⟨rfl, image, record, stands, recorded, rfl, read⟩
  · exact .inl chosen

/-- The resume of the one snapshot of a paused instance is served the image recorded under it. -/
theorem resume_by_id_serves_its_image_paused :
    ∃ node executor requireMemory continuation image record,
      reach .plain freshVersions resumedSession = some node ∧ node.system.tasks[8]? =
        some ⟨.executor executor, .step (.runtime (.resume ulid none)) continuation⟩ ∧
      executor.payload = .resume (some "snapshot") requireMemory ∧
      node.standby ulid = some image ∧ image.Recorded record ∧ record.snapshotId = "snapshot" := by
  have reachable : ((reach .plain freshVersions resumedSession).any fun node =>
      node.resumingAt 8 = some (some "snapshot", ulid, none)) = true := by decide +kernel
  have orderly : Along (next freshVersions)
      (fun before happening _ => before.Orderly freshVersions happening) (fresh .plain)
      resumedSession := by decide +kernel
  obtain ⟨node, reached, facts⟩ := exists_of_any reachable
  obtain ⟨executor, requireMemory, continuation, found, names⟩ := resumingAt_cases facts
  rcases resume_by_id_serves_its_image .plain freshVersions resumedSession node 8 executor ulid
    "snapshot" none requireMemory continuation reached orderly found names with
    other | ⟨-, image, record, stands, recorded, named, -⟩
  · cases other
  · exact ⟨node, executor, requireMemory, continuation, image, record, reached, found,
      names, stands, recorded, named⟩

/-- A snapshot `snapshot` of the running instance is taken. Then it is paused: the image is
`other`, and the journal refuses its record. A client asks for the snapshot. -/
def lostSession : List Happening :=
  steps (System.leasedSession ++ System.ask (.createSnapshot "a" ulid "") ::
    System.drive 5 0 56 5 ++
    .launch 0 :: System.drive 6 0 61 27 ++ System.ask (.pauseInstance "p" ulid none false) ::
    System.drive 7 0 88 5 ++ .launch 0 :: System.driveCapturing "other" 8 0 93 15 ++
    .deliver 8 { Choice.calm 0 108 with journalError := some "disk full" } ::
    System.drive 8 0 109 10 ++
    System.ask (.resumeInstance "r" (some (.snapshotId "snapshot")) false) ::
    System.drive 9 0 119 6 ++ .launch 0 :: System.drive 10 0 125 13)

/-- The resume of one snapshot restores the image of a later pause. -/
theorem resume_by_id_serves_another_image : ∃ node executor requireMemory continuation image,
      reach .plain freshVersions lostSession = some node ∧ node.system.tasks[10]? =
        some ⟨.executor executor, .step (.runtime (.resume ulid none)) continuation⟩ ∧
      executor.payload = .resume (some "snapshot") requireMemory ∧
      node.standby ulid = some image ∧ image.snapshot.snapshotId = "other" := by
  have reachable : ((reach .plain freshVersions lostSession).any fun node =>
      node.resumingAt 10 = some (some "snapshot", ulid, none) ∧
        (node.standby ulid).any fun image => image.snapshot.snapshotId = "other") = true := by
    decide +kernel
  obtain ⟨node, reached, resuming, facts⟩ := exists_of_any reachable
  obtain ⟨executor, requireMemory, continuation, found, names⟩ := resumingAt_cases resuming
  obtain ⟨image, stands, other⟩ := exists_of_any facts
  exact ⟨node, executor, requireMemory, continuation, image, reached, found, names, stands,
    other⟩

/-- Where the record of the image in place is there, holds memory and has the keys in force, a
resume of that record or of the latest whose reads were answered decides to restore in place. -/
theorem Standing.restores_in_place (standing : Standing etags node) {act : NodeAct}
    {continuation : NodeSig.Ans act → NodeProg Unit}
    (found : node.system.tasks[index]? = some ⟨.executor executor, .step act continuation⟩)
    (resumes : executor.payload = .resume snapshotId requireMemory)
    (unfinished : Unfinished (node.traces index)) {image : Image} {record : SnapshotRow}
    {instance_ : InstanceRow} (stands : node.standby executor.op.instanceId = some image)
    (member : record ∈ node.journal.snapshots.rows)
    (isRecord : record.snapshotId = image.snapshot.snapshotId)
    (present : node.journal.getInstance executor.op.instanceId = some instance_)
    (memory : image.snapshot.kind = .memoryAndDisk)
    (bundle : image.runtimeVersion = node.agent.runtimeVersion)
    (template : record.templateHash = node.agent.templateHash instance_.spec)
    (asked : snapshotId = none ∨ snapshotId = some record.snapshotId)
    (answered : ∀ query cause, ⟨.journal query, .error cause⟩ ∉ node.traces index)
    {reads : NodeTrace} {row : Option InstanceRow} {decision : Restore}
    (inside : reads ⊆ node.traces index)
    (resolved : Ran (resolveRestore node.agent executor.op.instanceId snapshotId requireMemory)
      reads (row, decision)) : decision = .fromMemory ∧ resumeTarget row snapshotId = none := by
  obtain ⟨imageMember, onInstance⟩ := standby_cases stands
  obtain ⟨machine, _, present', hash⟩ := standing.keyed image imageMember
  rw [onInstance, present] at present'
  cases present'
  have recorded : image.Recorded record := by
    obtain ⟨_, present', _, stands', -, records⟩ := standing.ties _
      (resuming_rests (standing.accounted.executing found unfinished) resumes)
    rw [Journal.getInstance_named present', stands] at stands'
    cases stands'
    exact (records record member isRecord).2
  have heard := standing.resuming found resumes unfinished image stands
  -- Every read of the instance found it pointing at the record.
  have reading {read : Except String (Option InstanceRow)}
      (asks : ⟨.journal (.getInstance executor.op.instanceId), read⟩ ∈ reads) :
      ∃ row, read = .ok (some row) ∧ row.latestSnapshotId = record.snapshotId ∧
        node.agent.templateHash row.spec = node.agent.templateHash instance_.spec := by
    cases read with
    | error cause => exact absurd (inside asks) (answered _ cause)
    | ok read =>
      obtain ⟨row, rfl, sameHash, -, points⟩ := heard _ (inside asks) onInstance.symm
      exact ⟨row, rfl, points record member isRecord, sameHash.trans hash.symm⟩
  -- Every look at the record found it.
  have looking {look : Except String (Option SnapshotRow)}
      (asks : ⟨.journal (.getSnapshot record.snapshotId), look⟩ ∈ reads) :
      look = .ok (some record) := by
    cases look with
    | error cause => exact absurd (inside asks) (answered _ cause)
    | ok look =>
      obtain ⟨-, records⟩ := heard _ (inside asks)
      rw [(records isRecord).2 record member rfl]
  obtain ⟨early, snapshot, read, earlier, looked, last, joined, decided⟩ :=
    resolveRestore_ran resolved
  obtain ⟨current, rfl, points, sameHash⟩ := reading last
  obtain rfl : row = some current := joined
  have isSnapshot : snapshot = some record := by
    rcases snapshotToRestore_ran looked with
      ⟨named, look, rfl, asks, rfl⟩ |
      ⟨rfl, first, asks, ⟨absent, -⟩ | ⟨_, present, ⟨unset, -⟩ | ⟨-, look, finds, rfl⟩⟩⟩
    · rcases asked with unasked | same
      · cases unasked
      · cases same
        rw [looking (earlier asks)]
        rfl
    · obtain ⟨_, rfl, -⟩ := reading (earlier asks)
      cases absent
    · obtain ⟨_, rfl, set, -⟩ := reading (earlier asks)
      cases present
      exact absurd (set.symm.trans unset) (standing.named record member)
    · obtain ⟨_, rfl, set, -⟩ := reading (earlier asks)
      cases present
      rw [set] at finds
      rw [looking (earlier finds)]
      rfl
  subst isSnapshot
  constructor
  · rw [decided]
    exact Restore.decide_fromMemory.mpr ⟨recorded.kind.trans memory, template.trans sameHash.symm,
      recorded.runtimeBundleRef.trans bundle, fun _ => recorded.cpuClass.trans machine⟩
  · unfold resumeTarget
    rcases asked with rfl | rfl
    · exact if_neg nofun
    · exact if_pos (congrArg some points.symm)

/-- **A paused session's memory survives snapshot churn**, along every such history: as long as the
record of the image in place is there, holds memory and has the keys in force, a resume with no
id and a resume naming that record, all of whose calls on the journal were answered, ask the
substrate to restore in place; and each has asked it when it finalizes. -/
theorem paused_memory_survives (agent : Agent) (etags : LeaseVersioning)
    (history : List Happening) (node : Deployed) (index : Nat) (executor : Executor)
    (snapshotId : Option String) (requireMemory : Bool) (act : NodeAct)
    (continuation : NodeSig.Ans act → NodeProg Unit) (image : Image) (record : SnapshotRow)
    (instance_ : InstanceRow) (reached : reach agent etags history = some node)
    (orderly : Along (next etags)
      (fun before happening _ => before.Orderly etags happening) (fresh agent) history)
    (found : node.system.tasks[index]? = some ⟨.executor executor, .step act continuation⟩)
    (resumes : executor.payload = .resume snapshotId requireMemory)
    (asked : snapshotId = none ∨ snapshotId = some record.snapshotId)
    (answered : ∀ query cause, ⟨.journal query, .error cause⟩ ∉ node.traces index)
    (stands : node.standby executor.op.instanceId = some image)
    (member : record ∈ node.journal.snapshots.rows)
    (isRecord : record.snapshotId = image.snapshot.snapshotId)
    (present : node.journal.getInstance executor.op.instanceId = some instance_)
    (memory : image.snapshot.kind = .memoryAndDisk)
    (bundle : image.runtimeVersion = node.agent.runtimeVersion)
    (template : record.templateHash = node.agent.templateHash instance_.spec) :
    (act.isWork = true → act = .runtime (.resume executor.op.instanceId none)) ∧
      ∀ args, act = .journal (.finishOperation args) → ∃ answer,
        ⟨.runtime (.resume executor.op.instanceId none), answer⟩ ∈ node.traces index := by
  have standing := reach_standing reached orderly
  constructor
  · intro work
    obtain ⟨unfinished, reads, row, decision, inside, resolved, acts⟩ :=
      resume_acts standing.accounted found resumes work
    obtain ⟨rfl, inPlace⟩ := standing.restores_in_place found resumes unfinished stands
      member isRecord
      present memory bundle template asked answered inside resolved
    rcases acts with ⟨-, rfl⟩ | ⟨_, _, _, _, boots, -⟩
    · rw [inPlace]
    · cases boots
  · rintro args rfl
    have residual := standing.accounted.come found
    obtain ⟨reads, row, decision, inside, resolved, acted⟩ :=
      resume_finished residual resumes answered
    obtain ⟨isMemory, inPlace⟩ := standing.restores_in_place found resumes (finish_first residual)
      stands member isRecord present memory bundle template asked answered inside resolved
    obtain ⟨answer, asked⟩ := acted isMemory
    rw [inPlace] at asked
    exact ⟨answer, asked⟩

def refused : Exchange NodeSig → Bool
  | ⟨.journal _, .error _⟩ => true
  | _ => false

/-- A snapshot `other` of the running instance is taken, and the instance is paused. While it is
paused, `other` is deleted; then a client asks for the snapshot of the pause. -/
def deletedSession : List Happening :=
  steps (System.leasedSession ++ System.ask (.createSnapshot "a" ulid "") ::
    System.drive 5 0 56 5 ++ .launch 0 :: System.driveCapturing "other" 6 0 61 27 ++
    System.ask (.pauseInstance "p" ulid none false) :: System.drive 7 0 88 5 ++ .launch 0 ::
    System.drive 8 0 93 25 ++ System.ask (.deleteSnapshot "d" "other") ::
    System.drive 9 0 118 5 ++ .launch 0 :: System.drive 10 0 123 20 ++
    System.ask (.resumeInstance "r" (some (.snapshotId "snapshot")) false) ::
    System.drive 11 0 143 6 ++ .launch 0 :: System.drive 12 0 149 13)

/-- Once an earlier snapshot is taken and, with the instance paused, deleted, the resume of the
snapshot of the pause restores it in place. -/
theorem paused_memory_survives_resumed : ∃ node executor requireMemory act continuation,
      reach .plain freshVersions deletedSession = some node ∧
      node.journal.operations.rows.map (fun op => (op.kind, op.state)) =
        [(.create, .done), (.start, .done), (.createSnapshot, .done), (.pause, .done),
          (.deleteSnapshot, .done), (.resume, .running)] ∧
      node.system.tasks[12]? = some ⟨.executor executor, .step act continuation⟩ ∧
      executor.payload = .resume (some "snapshot") requireMemory ∧ act.isWork = true ∧
      act = .runtime (.resume executor.op.instanceId none) := by
  have reachable : ((reach .plain freshVersions deletedSession).any fun node =>
      node.journal.operations.rows.map (fun op => (op.kind, op.state)) =
          [(.create, .done), (.start, .done), (.createSnapshot, .done), (.pause, .done),
            (.deleteSnapshot, .done), (.resume, .running)] ∧
        node.resumingAt 12 = some (some "snapshot", ulid, none) ∧
        ((node.traces 12).any refused) = false ∧
        ((node.standby ulid).any fun image =>
          image.snapshot = ⟨"snapshot", .memoryAndDisk⟩ ∧
            image.runtimeVersion = node.agent.runtimeVersion) = true ∧
        (node.journal.getSnapshot "snapshot").any fun record =>
          (node.journal.getInstance ulid).any fun row =>
            record.templateHash = node.agent.templateHash row.spec) = true := by decide +kernel
  have orderly : Along (next freshVersions)
      (fun before happening _ => before.Orderly freshVersions happening) (fresh .plain)
      deletedSession := by decide +kernel
  obtain ⟨node, reached, churned, resuming, calm, imaged, facts⟩ := exists_of_any reachable
  obtain ⟨executor, requireMemory, continuation, found, names⟩ := resumingAt_cases resuming
  obtain ⟨image, stands, isSnapshot, version⟩ := exists_of_any imaged
  obtain ⟨record, row, looked, present, template⟩ := exists_found_of_any facts
  obtain ⟨member, named⟩ := Table.mem_of_find? looked
  have named : record.snapshotId = "snapshot" := beq_iff_eq.mp named
  have answered : ∀ query cause, ⟨.journal query, .error cause⟩ ∉ node.traces 12 := by
    intro query cause member
    have refuses := List.any_eq_false.mp calm _ member
    exact refuses rfl
  obtain ⟨_, _, _, same, -, onInstance⟩ :=
    resume_located (reach_standing reached orderly).accounted found
  cases same
  rw [← onInstance] at stands present
  have inPlace := (paused_memory_survives .plain freshVersions deletedSession node 12 executor
    (some "snapshot") requireMemory (.runtime (.resume ulid none)) continuation image
    record row reached
    orderly found names (.inr (by rw [named])) answered stands member (by rw [named, isSnapshot])
    present (by rw [isSnapshot]) version template).1 rfl
  exact ⟨node, executor, requireMemory, _, continuation, reached, churned, found,
    names, rfl, inPlace⟩

/-- The instance is paused, a snapshot `other` of it is taken while it is, and a client asks for the
snapshot of the pause. -/
def churnedSession : List Happening :=
  steps (pausedSession ++ System.ask (.createSnapshot "a" ulid "") :: System.drive 7 0 86 4 ++
    .launch 0 :: System.driveCapturing "other" 8 0 90 25 ++
    System.ask (.resumeInstance "r" (some (.snapshotId "snapshot")) false) ::
    System.drive 9 0 115 6 ++ .launch 0 :: System.drive 10 0 121 13)

/-- The substrate is asked for the id of a pause, which it never issued: the image in place is that
pause's, its record is there and holds memory, and the keys are those in force. -/
theorem paused_memory_asked_by_id : ∃ node executor requireMemory continuation image record row,
      reach .plain freshVersions churnedSession = some node ∧ node.system.tasks[10]? =
        some ⟨.executor executor, .step (.runtime (.resume ulid (some "snapshot"))) continuation⟩ ∧
      executor.payload = .resume (some "snapshot") requireMemory ∧
      node.standby ulid = some image ∧ image.snapshot = ⟨"snapshot", .memoryAndDisk⟩ ∧
      image.runtimeVersion = node.agent.runtimeVersion ∧
      node.journal.getSnapshot "snapshot" = some record ∧ image.Recorded record ∧
      node.journal.getInstance ulid = some row ∧ record.templateHash = node.agent.templateHash
        row.spec := by
  have reachable : ((reach .plain freshVersions churnedSession).any fun node =>
      node.resumingAt 10 = some (some "snapshot", ulid, some "snapshot") ∧
        (node.standby ulid).any fun image =>
          (node.journal.getSnapshot "snapshot").any fun record =>
            (node.journal.getInstance ulid).any fun row =>
              image.snapshot = ⟨"snapshot", .memoryAndDisk⟩ ∧
                image.runtimeVersion = node.agent.runtimeVersion ∧
                (record.snapshotId = image.snapshot.snapshotId ∧
                  record.instanceId = image.instanceId ∧ record.kind = image.snapshot.kind ∧
                  record.cpuClass = image.cpuClass ∧
                  record.runtimeBundleRef = image.runtimeVersion) ∧
                record.templateHash = node.agent.templateHash row.spec) = true := by decide +kernel
  obtain ⟨node, reached, resuming, facts⟩ := exists_of_any reachable
  obtain ⟨executor, requireMemory, continuation, found, names⟩ := resumingAt_cases resuming
  obtain ⟨image, stands, facts⟩ := (Option.any_eq_true _ _).mp facts
  obtain ⟨record, row, looked, present, facts⟩ := exists_found_of_any facts
  obtain ⟨isSnapshot, version, ⟨sameId, sameInstance, kind, machine, bundle⟩, template⟩ :=
    facts
  exact ⟨node, executor, requireMemory, continuation, image, record, row, reached, found, names,
    stands, isSnapshot, version, looked, ⟨sameId, sameInstance, kind, machine, bundle⟩, present,
    template⟩

end Resumes

end Deployed

end Barista.Node
