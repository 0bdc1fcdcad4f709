import Barista.Node.Work

/-!
Contract: which snapshots of one instance share a name.

The name of a snapshot is checked when it is asked for and its row is written when the capture has
been taken. Between the two the operation holds its instance, so no other snapshot of the instance
is recorded; but nothing holds the instance between the check and the submission.

Owns: the names in the `snapshots` table of every run.
-/

namespace Barista.Node

open Foundation Fleet
open Prog (Emits After Once)

variable {agent : Agent} {etags : LeaseVersioning} {system after : System}
  {label : Label} {labels : List Label} {index : Nat} {traces : Nat → NodeTrace}

/-! ### Writes to the table -/

theorem snapshot_cases (stepped : System.next agent etags system label = some after)
    {row : SnapshotRow} (member : row ∈ after.world.journal.snapshots.rows) :
    row ∈ system.world.journal.snapshots.rows ∨ system.made label = some (.insertSnapshot row) := by
  cases made : system.made label with
  | none =>
    rcases System.journal_unmade made stepped with same | ⟨nowMs, opIds, -, same⟩
    · exact .inl (same ▸ member)
    · rw [same, (Journal.failOps_frame ..).2.2.2] at member
      exact .inl member
  | some query =>
    obtain ⟨nowMs, ⟨answer, ran⟩ | ⟨-, same⟩⟩ := System.journal_made made stepped
    · exact (Query.run_snapshots ran member).imp_right (congrArg some)
    · exact .inl (same ▸ member)

def NodeAct.Names (act : NodeAct) : Prop :=
  ∃ row, act = .journal (.insertSnapshot row) ∧ row.name ≠ ""

theorem NodeAct.Names.isWork {act : NodeAct} (names : act.Names) : act.isWork = true := by
  obtain ⟨row, rfl, named⟩ := names
  simp [NodeAct.isWork, named]

theorem WorksAt.unnamed {α : Type} {program : NodeProg α} {P : NodeAct → Prop}
    (works : WorksAt P program) (never : ∀ act, P act → ¬ act.Names) :
    program.Emits fun act : NodeAct => ¬ act.Names := by
  refine Emits.mono (fun act holds names => ?_) works
  exact never act (holds (NodeAct.Names.isWork names)) names

theorem WorksAt.nameless {α : Type} {program : NodeProg α}
    (works : WorksAt (fun _ => False) program) : program.Emits fun act : NodeAct => ¬ act.Names :=
  works.unnamed fun _ => False.elim

theorem unnamed_act {act : NodeAct} (unnamed : ¬ act.Names) :
    (perform act).Emits fun act : NodeAct => ¬ act.Names :=
  ⟨unnamed, fun _ => trivial⟩

theorem once_runCreateSnapshot (op : OperationRow) (name : Option String)
    (recorded : InstanceState) : (runCreateSnapshot agent op name recorded).Once NodeAct.Names := by
  have records (snapshot : SnapshotInfo) :
      (recordSnapshot agent op.instanceId snapshot (name.getD "")).Once NodeAct.Names :=
    .before (WorksAt.idle rfl).nameless fun _ => .before (WorksAt.idle rfl).nameless fun _ =>
      ⟨fun _ => trivial, fun _ _ => trivial⟩
  refine .before (WorksAt.step ..).nameless fun _ => .before (WorksAt.idle rfl).nameless fun hook =>
    .before (WorksAt.performs (Performs.degradeAll ..)).nameless fun _ =>
    .before (WorksAt.performs (Performs.announceCapture ..)).nameless fun _ =>
    .before (unnamed_act (by rintro ⟨_, ⟨⟩, -⟩)) fun captured => ?_
  split
  · refine .before (WorksAt.step ..).nameless fun _ => .finally (records _) fun journaled => ?_
    split
    · trivial
    · refine Emits.bind (Emits.bind (WorksAt.step ..).nameless fun _ =>
        Emits.bind (unnamed_act (by rintro ⟨_, ⟨⟩, -⟩)) fun undone => ?_) fun _ => trivial
      split
      · trivial
      · exact (WorksAt.performs (Performs.degrade ..)).nameless
  · trivial

theorem OpPayload.does_names {payload : OpPayload} {id : String} {row : SnapshotRow}
    (does : payload.does id (.journal (.insertSnapshot row))) (named : row.name ≠ "") :
    payload = .createSnapshot (some row.name) ∧ row.instanceId = id := by
  cases payload with
  | pause requireMemory =>
    rcases does with paused | ⟨_, ⟨⟩, -, unnamed⟩
    · cases paused
    · exact absurd unnamed named
  | createSnapshot name =>
    rcases does with captured | ⟨_, ⟨⟩, onInstance, under⟩ | ⟨_, deleted⟩
    · cases captured
    · cases name with
      | none => exact absurd under named
      | some name => exact ⟨by rw [under]; rfl, onInstance⟩
    · cases deleted
  | create | fork | restoreCapsule | start | stop | resume | deleteSnapshot | destroy =>
    simp [OpPayload.does] at does

theorem once_runPayload (op : OperationRow) (recorded : InstanceState) (epoch : Nat)
    (payload : OpPayload) : (runPayload agent op recorded epoch payload).Once NodeAct.Names := by
  cases payload with
  | createSnapshot name => exact once_runCreateSnapshot ..
  | _ =>
    refine .of_emits ((WorksAt.performs (Performs.runPayload ..)).unnamed ?_)
    rintro _ does ⟨row, rfl, named⟩
    cases (OpPayload.does_names does named).1

/-- **A named snapshot is recorded by the operation that was asked for it**, which holds its
instance and has recorded none before. -/
theorem named_insert (accounted : Accounted agent etags system traces) {role : Role}
    {row : SnapshotRow} {continuation : Except String Unit → NodeProg Unit}
    (found : system.tasks[index]? =
      some ⟨role, .step (.journal (.insertSnapshot row)) continuation⟩) (named : row.name ≠ "") :
    ∃ executor, role = .executor executor ∧ Executing index executor system.world ∧
      executor.payload = .createSnapshot (some row.name) ∧ row.instanceId = executor.op.instanceId ∧
      ∀ exchange ∈ traces index, ¬ exchange.act.Names := by
  have names : (NodeAct.journal (.insertSnapshot row)).Names := ⟨row, rfl, named⟩
  have residual := accounted.come found
  obtain ⟨executor, rfl, ⟨working⟩, does⟩ := payload_work residual names.isWork (by simp)
  obtain ⟨asked, onInstance⟩ := OpPayload.does_names does named
  refine ⟨executor, rfl, accounted.working found working, asked, onInstance, ?_⟩
  intro exchange member
  rw [working.split, List.mem_append, List.mem_append] at member
  rcases member with rotating | stamping | within
  · rcases ((rotateEpoch_rotates ..).after working.rotated).1 _ rotating with rotates |
      ⟨_, rotates⟩ <;>
    · rw [rotates]
      rintro ⟨_, ⟨⟩, -⟩
  · exact (((WorksAt.custodial (Keeping.stamp _).custodial).nameless).after working.stamped).1 _
      stamping
  · exact (once_runPayload ..).after working.works names exchange within

/-! ### Names in use -/

def Unused (journal : Journal) (id text : String) : Prop :=
  ∀ row ∈ journal.snapshots.rows, row.instanceId = id → row.name ≠ "" → text ≠ "name=" ++ row.name

instance (journal : Journal) (id text : String) : Decidable (Unused journal id text) :=
  inferInstanceAs (Decidable (∀ row ∈ journal.snapshots.rows, _))

/-- A step journals a snapshot operation under a name the instance already has. -/
def Reuses (etags : LeaseVersioning) (system : System) (label : Label) : Prop :=
  match system.journaled etags label with
  | some (args, _) => args.kind = .createSnapshot ∧
      ¬ Unused system.world.journal args.instanceId args.payload
  | none => False

instance (system : System) (label : Label) : Decidable (Reuses etags system label) := by
  unfold Reuses
  split <;> infer_instance

def UniqueNames (journal : Journal) : Prop :=
  ∀ left ∈ journal.snapshots.rows, ∀ right ∈ journal.snapshots.rows,
    left.name ≠ "" → left.name = right.name → left.instanceId = right.instanceId → left = right

/-- Names are unique, and stay so: the name a snapshot operation in charge will record is unused,
until it has recorded it. -/
structure Reserved (system : System) (traces : Nat → NodeTrace) : Prop where
  unique : UniqueNames system.world.journal
  claims : ∀ op ∈ system.world.journal.operations.rows, op.executorActive = true →
    op.kind = .createSnapshot → system.world.aux.charge op.opId ≠ none →
    Unused system.world.journal op.instanceId op.payload ∨
      ∃ index, system.world.aux.charge op.opId = some (.executor index) ∧
        ∃ exchange ∈ traces index, exchange.act.Names

theorem Executing.owns {executor : Executor} (executing : Executing index executor system.world) :
    ∃ op ∈ system.world.journal.operations.rows, op.opId = executor.op.opId ∧
      op.instanceId = executor.op.instanceId ∧ op.kind = executor.payload.kind ∧
      op.payload = payloadDescriptor executor.payload ∧ op.executorActive = true := by
  obtain ⟨op, member, opId, onInstance, kind, active⟩ := executing.claimed.journaled
  obtain ⟨other, otherMember, otherId, text⟩ := executing.claimed.described
  have idColumn : OperationRow.opId ∈ [OperationRow.opId, OperationRow.idempotencyKey] := by simp
  have same := Table.eq_of_column idColumn member otherMember (opId.trans otherId.symm)
  exact ⟨op, member, opId, onInstance, kind.trans executing.planned.1, same ▸ text, active⟩

theorem Reserved.unused (accounted : Accounted agent etags system traces)
    (reserved : Reserved system traces) {role : Role}
    {row : SnapshotRow} {continuation : Except String Unit → NodeProg Unit}
    (found : system.tasks[index]? =
      some ⟨role, .step (.journal (.insertSnapshot row)) continuation⟩) (named : row.name ≠ "") :
    ∀ other ∈ system.world.journal.snapshots.rows, other.instanceId = row.instanceId →
      other.name ≠ row.name := by
  obtain ⟨executor, -, executing, asked, onInstance, first⟩ := named_insert accounted found named
  obtain ⟨op, member, opId, opInstance, kind, text, active⟩ := executing.owns
  have charge : system.world.aux.charge op.opId = some (.executor index) := opId ▸ executing.charge
  rcases reserved.claims op member active (by rw [kind, asked]; rfl) (by simp [charge]) with
    unused | ⟨other, charged, exchange, recorded, names⟩
  · intro other otherMember sameInstance sameName
    refine unused other otherMember (by rw [sameInstance, onInstance, opInstance])
      (by rwa [sameName]) ?_
    rw [text, asked, sameName]
    rfl
  · cases charge.symm.trans charged
    exact absurd names (first exchange recorded)

theorem Reserved.unique_step (accounted : Accounted agent etags system traces)
    (reserved : Reserved system traces)
    (stepped : System.next agent etags system label = some after) :
    UniqueNames after.world.journal := by
  -- A row that was inserted beside one that was there has another name or instance.
  have apart {left right : SnapshotRow} (made : system.made label = some (.insertSnapshot left))
      (old : right ∈ system.world.journal.snapshots.rows) (named : left.name ≠ "")
      (sameName : left.name = right.name) (sameInstance : left.instanceId = right.instanceId) :
      False := by
    obtain ⟨index, _, role, continuation, -, -, found⟩ := System.made_located made
    exact reserved.unused accounted found named right old sameInstance.symm sameName.symm
  intro left leftMember right rightMember named sameName sameInstance
  rcases snapshot_cases stepped leftMember with leftOld | leftMade <;>
    rcases snapshot_cases stepped rightMember with rightOld | rightMade
  · exact reserved.unique left leftOld right rightOld named sameName sameInstance
  · exact (apart rightMade leftOld (sameName ▸ named) sameName.symm sameInstance.symm).elim
  · exact (apart leftMade rightOld named sameName sameInstance).elim
  · cases leftMade.symm.trans rightMade
    rfl

theorem Reserved.step (accounted : Accounted agent etags system traces)
    (reserved : Reserved system traces)
    (stepped : System.next agent etags system label = some after)
    (fresh : ¬ Reuses etags system label) :
    Reserved after (System.tracesAfter etags system label traces) := by
  refine ⟨reserved.unique_step accounted stepped, fun op member active kind charged => ?_⟩
  rcases claim_cases accounted.covered stepped member active charged with
    ⟨old, oldMember, step, oldActive, oldCharged, same⟩ | ⟨args, recorded, journaled, rfl⟩
  · rcases reserved.claims old oldMember oldActive (step.kind ▸ kind) (step.opId ▸ oldCharged) with
      unused | ⟨index, charge, exchange, recorded, names⟩
    · by_cases still : Unused after.world.journal op.instanceId op.payload
      · exact .inl still
      -- The name was taken by this step, and only the operation itself can have taken it.
      unfold Unused at still
      push Not at still
      obtain ⟨row, rowMember, onInstance, named, text⟩ := still
      rcases snapshot_cases stepped rowMember with rowOld | made
      · exact absurd (step.payload ▸ text) (unused row rowOld (step.instanceId ▸ onInstance) named)
      obtain ⟨index, choice, role, continuation, rfl, -, found⟩ := System.made_located made
      obtain ⟨executor, rfl, executing, -, rowInstance, -⟩ := named_insert accounted found named
      obtain ⟨own, ownMember, ownId, ownInstance, -, -, ownActive⟩ := executing.owns
      have isOwn := accounted.owned.one_active old oldMember own ownMember oldActive ownActive
        (by rw [← step.instanceId, ← onInstance, rowInstance, ownInstance])
      have charge : system.world.aux.charge op.opId = some (.executor index) := by
        rw [step.opId, isOwn, ownId, executing.charge]
      obtain ⟨_, _, _, answer, world, located, executed, rfl⟩ := Pool.step_cases stepped
      cases found.symm.trans located
      refine .inr ⟨index, ?_, ⟨.journal (.insertSnapshot row), answer⟩, ?_, row, rfl, named⟩
      · rcases same with same | never
        · exact same.trans charge
        · exact absurd charge (never index)
      · rw [System.tracesAfter_self found executed]
        simp
    · refine .inr ⟨index, ?_, exchange, System.mem_tracesAfter recorded, names⟩
      rcases same with same | never
      · rw [same, step.opId]
        exact charge
      · exact absurd (step.opId ▸ charge) (never index)
  · have made := (System.journaled_cases stepped journaled).1
    simp only [Reuses, journaled, not_and, not_not] at fresh
    refine .inl fun row rowMember => ?_
    rcases snapshot_cases stepped rowMember with rowOld | inserted
    · exact fresh kind row rowOld
    · cases made.symm.trans inserted

theorem reach_reserved (reached : System.reach agent etags labels = some system)
    (fresh : Along (System.next agent etags)
      (fun before label _ => ¬ Reuses etags before label) System.initial labels) :
    Reserved system (System.traces agent etags labels) := by
  refine fresh.observed_run (I := fun current (traces : Nat → NodeTrace) =>
    Reserved current traces) ?_ ?_ reached
  · intro labels current label later reached _ reserved stepped here
    exact reserved.step (reach_accounted reached) stepped here
  · exact ⟨by rintro _ ⟨⟩, by rintro _ ⟨⟩⟩

/-- **Snapshot names are unique per instance**, in every run in which no snapshot operation is
journaled under a name its instance already has. -/
theorem snapshot_names_unique (agent : Agent) (etags : LeaseVersioning)
    (labels : List Label) (system : System)
    (reached : System.reach agent etags labels = some system)
    (fresh : Along (System.next agent etags)
      (fun before label _ => ¬ Reuses etags before label) System.initial labels) :
    ∀ left ∈ system.world.journal.snapshots.rows, ∀ right ∈ system.world.journal.snapshots.rows,
      left.name ≠ "" → left.name = right.name → left.instanceId = right.instanceId →
      left = right :=
  (reach_reserved reached fresh).unique

/-- A substrate on which every call succeeds, and a capture is given this id. -/
def RuntimeCall.capturing (snapshotId : String) : (call : RuntimeCall) → call.Answer
  | .pause _ | .createSnapshot _ _ => .ok ⟨snapshotId, .memoryAndDisk⟩
  | call => call.succeed

/-- Let one task take its next actions on such a substrate. -/
def System.driveCapturing (snapshotId : String) (index : Nat) (nowMs : Int) (first count : Nat) :
    List Label :=
  (List.range' first count).map fun stamp =>
    .deliver index { Choice.calm nowMs stamp with runtime := RuntimeCall.capturing snapshotId }

/-- Snapshots of the running instance are taken under the names `n` and `m`; the first is deleted,
and one is taken under the name `n` again. -/
def System.namedSession : List Label :=
  leasedSession ++ ask (.createSnapshot "a" ulid "n") :: drive 5 0 56 6 ++ .launch 0 ::
    drive 6 0 62 27 ++ ask (.createSnapshot "b" ulid "m") :: drive 7 0 89 6 ++ .launch 0 ::
    driveCapturing "other" 8 0 95 27 ++ ask (.deleteSnapshot "d" "snapshot") ::
    drive 9 0 122 5 ++ .launch 0 :: drive 10 0 127 22 ++
    ask (.createSnapshot "e" ulid "n") :: drive 11 0 149 6 ++ .launch 0 ::
    driveCapturing "again" 12 0 155 27

/-- Two names on one instance, one of them taken again after a deletion, are unique. -/
theorem snapshot_names_unique_taken :
    ∃ system, System.reach .plain freshVersions System.namedSession = some system ∧
      system.world.journal.snapshots.rows.map
        (fun row => (row.snapshotId, row.instanceId, row.name)) =
        [("other", ulid, "m"), ("again", ulid, "n")] ∧
      ∀ left ∈ system.world.journal.snapshots.rows, ∀ right ∈ system.world.journal.snapshots.rows,
        left.name ≠ "" → left.name = right.name → left.instanceId = right.instanceId →
        left = right := by
  have reachable : ((System.reach .plain freshVersions System.namedSession).any fun system =>
      system.world.journal.snapshots.rows.map
        (fun row => (row.snapshotId, row.instanceId, row.name)) =
        [("other", ulid, "m"), ("again", ulid, "n")]) = true := by decide +kernel
  have fresh : Along (System.next .plain freshVersions)
      (fun before label _ => ¬ Reuses freshVersions before label) System.initial
      System.namedSession := by
    decide +kernel
  obtain ⟨system, reached, taken⟩ := exists_of_any reachable
  exact ⟨system, reached, taken, snapshot_names_unique .plain freshVersions
    System.namedSession system reached fresh⟩

/-- Two clients ask for a snapshot under the name `n`: both are told that the name is free before
either is journaled. The first is taken; then the second is journaled, and taken too. -/
def System.renamedSession : List Label :=
  leasedSession ++ ask (.createSnapshot "a" ulid "n") :: drive 5 0 56 3 ++
    ask (.createSnapshot "b" ulid "n") :: drive 6 0 59 3 ++ drive 5 0 62 3 ++ .launch 0 ::
    drive 7 0 65 27 ++ drive 6 0 92 3 ++ .launch 0 :: driveCapturing "other" 8 0 95 27

/-- Two snapshots of one instance, with ids of their own, share a name. -/
theorem snapshot_names_shared : ∃ system first second,
      System.reach .plain freshVersions System.renamedSession = some system ∧
      first ∈ system.world.journal.snapshots.rows ∧ second ∈ system.world.journal.snapshots.rows ∧
      first.snapshotId ≠ second.snapshotId ∧ first.name ≠ "" ∧ first.name = second.name ∧
      first.instanceId = second.instanceId := by
  have reachable : ((System.reach .plain freshVersions System.renamedSession).any fun system =>
      (system.world.journal.getSnapshot "snapshot").any fun first =>
        (system.world.journal.getSnapshot "other").any fun second =>
          first.snapshotId ≠ second.snapshotId ∧ first.name ≠ "" ∧ first.name = second.name ∧
            first.instanceId = second.instanceId) = true := by
    decide +kernel
  obtain ⟨system, reached, facts⟩ := (Option.any_eq_true _ _).mp reachable
  obtain ⟨first, second, firstFound, secondFound, shared⟩ := exists_found_of_any facts
  exact ⟨system, first, second, reached, (Table.mem_of_find? firstFound).1,
    (Table.mem_of_find? secondFound).1, shared⟩

end Barista.Node
