import Barista.Node.Admission
import Barista.Node.PauseResume

/-!
Contract: what an instance's pointer at its latest snapshot leads to.

The pointer and the `snapshots` table are written by five transactions, and no foreign key ties
them. A recorded capture moves the pointer of its instance, the deletion of a snapshot clears every
pointer at it, and the deletion of a capsule removes the row of its import and looks at no pointer.
A pointer leads to a row of its own instance as long as the substrate issues every snapshot id once,
and none that a capsule's row could have.

Owns: the pointers in the journal of every run.
-/

namespace Barista.Node

open Foundation Fleet
open Prog (Emits After after_bind_step)

variable {agent : Agent} {etags : LeaseVersioning} {system after : System}
  {label : Label} {labels : List Label} {index : Nat} {traces : Nat → NodeTrace}

/-! ### What the substrate issues -/

def issued : Exchange NodeSig → Option (String × String)
  | ⟨.runtime (.pause id), .ok snapshot⟩ => some (snapshot.snapshotId, id)
  | ⟨.runtime (.createSnapshot id _), .ok snapshot⟩ => some (snapshot.snapshotId, id)
  | _ => none

namespace System

def issuedAt (etags : LeaseVersioning) (system : System) (label : Label) :
    Option (String × String) :=
  (system.exchanged etags label).bind fun made => issued made.2

def issues (agent : Agent) (etags : LeaseVersioning) (labels : List Label) :
    List (String × String) :=
  observe (next agent etags)
    (fun system label noted => noted ++ (system.issuedAt etags label).toList) initial labels []

theorem issues_snoc (reached : reach agent etags labels = some system)
    (stepped : next agent etags system label = some after) :
    issues agent etags (labels ++ [label]) =
      issues agent etags labels ++ (system.issuedAt etags label).toList :=
  observe_snoc reached stepped

theorem issued_of_trace (reached : reach agent etags labels = some system) :
    ∀ index, ∀ exchange ∈ System.traces agent etags labels index, ∀ issue,
      issued exchange = some issue → issue ∈ issues agent etags labels := by
  refine run_induction (P := fun labels _ => ∀ index,
    ∀ exchange ∈ System.traces agent etags labels index, ∀ issue,
      issued exchange = some issue → issue ∈ issues agent etags labels) ?_ ?_ reached
  · intro index exchange member
    cases member
  · intro labels current label later early before stepped index exchange member issue isIssue
    rw [issues_snoc early stepped, List.mem_append]
    have grown : System.traces agent etags (labels ++ [label]) =
        tracesAfter etags current label (System.traces agent etags labels) :=
      observe_snoc early stepped
    rw [grown] at member
    rcases mem_tracesAfter_cases member with earlier | exchanged
    · exact .inl (before index exchange earlier issue isIssue)
    · exact .inr (by simp [issuedAt, exchanged, isIssue])

end System

/-- No snapshot id is issued twice, and none is one that the row of a capsule has. -/
structure IssuedApart (issues : List (String × String)) : Prop where
  once : (issues.map Prod.fst).Nodup
  foreign : ∀ issue ∈ issues, ¬ "capsule:".toList <+: issue.1.toList

instance (issues : List (String × String)) : Decidable (IssuedApart issues) :=
  decidable_of_iff ((issues.map Prod.fst).Nodup ∧
      ∀ issue ∈ issues, ¬ "capsule:".toList <+: issue.1.toList)
    ⟨fun holds => ⟨holds.1, holds.2⟩, fun apart => ⟨apart.once, apart.foreign⟩⟩

theorem IssuedApart.of_append {early late : List (String × String)}
    (apart : IssuedApart (early ++ late)) : IssuedApart early where
  once := by
    have once := apart.once
    rw [List.map_append] at once
    exact (List.nodup_append.mp once).1
  foreign issue member := apart.foreign issue (List.mem_append_left _ member)

theorem IssuedApart.same_instance {issues : List (String × String)} (apart : IssuedApart issues)
    {snapshotId first second : String} (one : (snapshotId, first) ∈ issues)
    (other : (snapshotId, second) ∈ issues) : first = second :=
  congrArg Prod.snd (List.inj_on_of_nodup_map apart.once one other rfl)

/-! ### Where the rows of the table come from -/

variable {row : SnapshotRow} {trace : NodeTrace}

theorem recordSnapshot_records {id name : String} {snapshot : SnapshotInfo}
    {inner : Except String Unit → NodeProg (Except String Unit)}
    (reached : After (recordSnapshot agent id snapshot name) trace
      (.step (.journal (.insertSnapshot row)) inner)) :
    row.snapshotId = snapshot.snapshotId ∧ row.instanceId = id := by
  cases reached with
  | step found =>
    dsimp only [Prog.pure_bind] at found
    cases found with
    | step timed =>
      dsimp only [Prog.pure_bind] at timed
      cases timed with
      | refl => exact ⟨rfl, rfl⟩
      | step returned => cases returned

theorem runCreateSnapshot_records {op : OperationRow} {name : Option String}
    {recorded : InstanceState} {inner : Except String Unit → NodeProg Work}
    (reached : After (runCreateSnapshot agent op name recorded) trace
      (.step (.journal (.insertSnapshot row)) inner)) : row.instanceId = op.instanceId ∧ ∃ snapshot,
      ⟨.runtime (.createSnapshot op.instanceId name), .ok snapshot⟩ ∈ trace ∧
      row.snapshotId = snapshot.snapshotId := by
  have other {α : Type} {program : NodeProg α} {within : NodeTrace}
      {inner : Except String Unit → NodeProg α} (plain : Plain program)
      (comes : After program within (.step (.journal (.insertSnapshot row)) inner)) : False := by
    cases (plain.after comes).2.1
  have asks : Plain (beyond (.preSnapshotHook op.instanceId)) := ⟨rfl, fun _ => trivial⟩
  have announces : Plain
    (announceCapture op (recorded = .checkpointing ∧ agent.liveCheckpoint = false)) := by
    unfold announceCapture
    split
    · exact ⟨rfl, fun _ => plain_step ..⟩
    · exact plain_step ..
  rcases after_bind_step reached with ⟨_, steps⟩ | ⟨_, _, _, rfl, -, hooking⟩
  · exact (other (plain_step ..) steps).elim
  rcases after_bind_step hooking with ⟨_, hooks⟩ | ⟨_, hook, _, rfl, -, degrading⟩
  · exact (other asks hooks).elim
  rcases after_bind_step degrading with ⟨_, degrades⟩ | ⟨_, _, _, rfl, -, freezing⟩
  · exact (other (plain_degradeAll ..) degrades).elim
  rcases after_bind_step freezing with ⟨_, freezes⟩ | ⟨_, _, _, rfl, -, capturing⟩
  · exact (other announces freezes).elim
  cases capturing with
  | step captured =>
    dsimp only [Prog.pure_bind] at captured
    split at captured
    · next snapshot =>
        rcases after_bind_step captured with ⟨_, steps⟩ | ⟨_, _, _, rfl, -, recording⟩
        · exact (other (plain_step ..) steps).elim
        rcases after_bind_step recording with ⟨_, records⟩ | ⟨_, outcome, _, rfl, -, undoing⟩
        · obtain ⟨same, onInstance⟩ := recordSnapshot_records records
          exact ⟨onInstance, snapshot, by simp, same⟩
        · split at undoing
          · cases undoing
          · rcases after_bind_step undoing with ⟨_, undoes⟩ | ⟨_, _, _, -, -, returned⟩
            · refine (other ?_ undoes).elim
              refine Emits.bind (plain_step ..) fun _ => ⟨rfl, fun undone => ?_⟩
              dsimp only [Prog.pure_bind]
              split
              · trivial
              · exact ⟨rfl, fun _ => trivial⟩
            · cases returned
    · cases captured

/-- **Who writes a row of the table.** The import of a capsule, or an operation that was answered
with the snapshot it records. -/
theorem record_issued (accounted : Accounted agent etags system traces) {role : Role}
    {continuation : Except String Unit → NodeProg Unit} (found : system.tasks[index]? =
      some ⟨role, .step (.journal (.insertSnapshot row)) continuation⟩) :
    (row.instanceId = "" ∧ "capsule:".toList <+: row.snapshotId.toList) ∨
      ∃ exchange ∈ traces index, issued exchange = some (row.snapshotId, row.instanceId) := by
  by_cases work : (NodeAct.journal (.insertSnapshot row)).isWork = true
  swap
  · left
    simp only [NodeAct.isWork, Bool.or_eq_true, not_or, Bool.not_eq_true, decide_eq_false_iff_not,
      Bool.not_eq_false', not_not] at work
    exact ⟨work.1.1, List.isPrefixOf_iff_prefix.mp work.2⟩
  right
  have residual := accounted.come found
  obtain ⟨executor, rfl, ⟨working⟩, does⟩ := payload_work residual work (by simp)
  cases payload : executor.payload with
  | pause requireMemory =>
    obtain ⟨⟨snapshot, captured, keyed⟩, -⟩ := working.pause payload
    exact ⟨_, working.inside captured, by rw [keyed.snapshotId, keyed.instanceId]; rfl⟩
  | createSnapshot name =>
    have works := working.works
    rw [payload] at works
    obtain ⟨onInstance, snapshot, captured, same⟩ := runCreateSnapshot_records works
    exact ⟨_, working.inside captured, by rw [same, onInstance]; rfl⟩
  | _ => simp [payload, OpPayload.does] at does

/-! ### Every instance has an id -/

theorem entered_named (refused : agent.parseUlid "" ≠ .ok ()) {role : Role} {act : NodeAct}
    {next : NodeSig.Ans act → NodeProg Unit}
    (residual : After (role.prog agent) trace (.step act next)) {instanceId key : String}
    {payload : OpPayload} {claim : Option Claim} {spec : InstanceSpec}
    (entered : Entered agent (.heard role trace) instanceId key payload claim)
    (creates : createSpec payload = some spec) : spec.instanceId ≠ "" := by
  have target {request : ForkRequest} (asked : role = .caller (.call (.forkInstance request))) :
      request.targetInstanceId ≠ "" := by
    intro empty
    have returned : role.prog agent = .pure () := by
      rw [asked]
      simp only [Role.prog, Invocation.prog, Rpc.serve, forkInstance, if_pos empty]
      rfl
    rw [returned] at residual
    cases residual
  cases entered with
  | create admitted =>
    cases creates
    intro empty
    exact refused (empty ▸ (admitSpec_ok_iff.mp admitted).1)
  | fork asked read =>
    cases creates
    exact target asked
  | capsule asked given =>
    cases creates
    exact target asked
  | verb plain => cases plain.symm.trans creates
  | ttl resolution => cases resolution <;> cases creates
  | wake wakes => rcases wakes with rfl | rfl <;> cases creates

theorem instances_named (refused : agent.parseUlid "" ≠ .ok ())
    (reached : System.reach agent etags labels = some system) :
    ∀ row ∈ system.world.journal.instances.rows, row.instanceId ≠ "" := by
  refine run_induction (P := fun _ current =>
    ∀ row ∈ current.world.journal.instances.rows, row.instanceId ≠ "") ?_ ?_ reached
  · intro row member
    cases member
  · intro labels current label later early named stepped row member
    have found := Journal.getInstance_mem member
    rcases row_cases stepped row.instanceId with
      same | ⟨_, _, _, old, new, -, read, written, touches⟩ |
      ⟨args, spec, identity, nowMs, made, creates, -, -, written⟩
    · exact named row (Table.mem_of_find? (same.symm.trans found)).1
    · cases written.symm.trans found
      rw [(Query.rewritten touches).instanceId]
      exact named old (Table.mem_of_find? read).1
    · rw [← Option.some.inj (written.symm.trans found)]
      obtain ⟨index, choice, role, continuation, -, -, located⟩ := System.made_located made
      have residual := System.next_residual early located
      obtain ⟨_, _, _, _, _, _, _, rfl, entered⟩ := role_entrance residual
      exact entered_named refused residual entered creates

/-! ### Pointers -/

/-- An instance's pointer is empty, or names a row of that instance. -/
def Journal.Points (journal : Journal) (row : InstanceRow) : Prop :=
  row.latestSnapshotId = "" ∨ ∃ record ∈ journal.snapshots.rows,
    record.snapshotId = row.latestSnapshotId ∧ record.instanceId = row.instanceId

/-- A row of the table is a capsule's, of no instance, or records what the substrate issued. -/
def SnapshotRow.IsIssued (issues : List (String × String)) (record : SnapshotRow) : Prop :=
  (record.instanceId = "" ∧ "capsule:".toList <+: record.snapshotId.toList) ∨
    (record.snapshotId, record.instanceId) ∈ issues

theorem SnapshotRow.IsIssued.mono {early late : List (String × String)} {record : SnapshotRow}
    (isIssued : record.IsIssued early) : record.IsIssued (early ++ late) :=
  isIssued.imp_right (List.mem_append_left _)

theorem Journal.deleteSnapshot_pointer {journal : Journal} {snapshotId : String} {row : InstanceRow}
    (member : row ∈ (journal.deleteSnapshot snapshotId).instances.rows)
    (deleted : row.latestSnapshotId = snapshotId) : row.latestSnapshotId = "" := by
  rw [deleteSnapshot, Table.mem_update] at member
  obtain ⟨old, -, rfl⟩ := member
  by_cases hit : (old.latestSnapshotId == snapshotId) = true
  · rw [if_pos hit]
  · rw [if_neg hit] at deleted
    exact absurd (beq_iff_eq.mpr deleted) hit

open Journal in
/-- **Everything a call can do to a pointer**: it leaves it at a row of its instance, or nowhere. -/
theorem Query.run_points {query : Query} {nowMs : Int} {journal next : Journal}
    {answer : query.Answer} (ran : query.run nowMs journal = .ok (answer, next))
    {issues : List (String × String)} (apart : IssuedApart issues)
    (named : ∀ row ∈ journal.instances.rows, row.instanceId ≠ "")
    (recorded : ∀ record ∈ journal.snapshots.rows, record.IsIssued issues)
    (writes : ∀ record, query = .insertSnapshot record → record.IsIssued issues)
    (points : ∀ row ∈ journal.instances.rows, journal.Points row) :
    ∀ row ∈ next.instances.rows, next.Points row := by
  -- A pointer outlives the call, unless the call deletes what it points at.
  have stays {old : InstanceRow} (there : old ∈ journal.instances.rows)
      (undeleted : query ≠ .deleteSnapshot old.latestSnapshotId) : next.Points old := by
    rcases points old there with empty | ⟨record, member, same, own⟩
    · exact .inl empty
    have issue : (record.snapshotId, record.instanceId) ∈ issues := by
      rcases recorded record member with ⟨empty, -⟩ | issue
      · exact absurd (own.symm.trans empty) (named old there)
      · exact issue
    right
    rcases run_recorded ran member with
      kept | deleted | ⟨capsuleId, -, isCapsule⟩ | ⟨row, inserted, sameId, present⟩
    · exact ⟨record, kept, same, own⟩
    · exact absurd (same ▸ deleted) undeleted
    · refine absurd ?_ (apart.foreign _ issue)
      rw [isCapsule, String.toList_append]
      exact List.prefix_append ..
    · rcases writes row inserted with ⟨-, isCapsule⟩ | again
      · exact absurd (sameId ▸ isCapsule) (apart.foreign _ issue)
      · rw [sameId] at again
        exact ⟨row, present, sameId.trans same, (apart.same_instance again issue).trans own⟩
  intro row member
  by_cases deletes : query = .deleteSnapshot row.latestSnapshotId
  · subst deletes
    cases ran
    exact .inl (deleteSnapshot_pointer member rfl)
  have found := getInstance_mem member
  rcases run_row ran row.instanceId with
    same | ⟨old, new, read, written, touches⟩ | ⟨args, spec, identity, -, -, -, -, -, written⟩
  · exact stays (Table.mem_of_find? (same.symm.trans found)).1 deletes
  · cases written.symm.trans found
    have there := (Table.mem_of_find? read).1
    have sameId := (rewritten touches).instanceId
    rcases (rewritten touches).pointer with kept | ⟨record, rfl, own, moved⟩ | ⟨-, cleared⟩
    · rcases stays there (kept ▸ deletes) with empty | ⟨record, present, same, own⟩
      · exact .inl (kept.trans empty)
      · exact .inr ⟨record, present, same.trans kept.symm, own.trans sameId.symm⟩
    · cases ran
      exact .inr ⟨record, List.mem_append_right _ List.mem_cons_self, moved.symm,
        own.symm.trans sameId.symm⟩
    · exact .inl cleared
  · rw [← Option.some.inj (written.symm.trans found)]
    exact .inl rfl

/-- What every step of a run keeps of the table and the pointers. -/
structure Pointed (issues : List (String × String)) (journal : Journal) : Prop where
  recorded : ∀ record ∈ journal.snapshots.rows, record.IsIssued issues
  points : ∀ row ∈ journal.instances.rows, journal.Points row

theorem Pointed.step (refused : agent.parseUlid "" ≠ .ok ())
    (reached : System.reach agent etags labels = some system)
    (apart : IssuedApart (System.issues agent etags labels))
    (pointed : Pointed (System.issues agent etags labels) system.world.journal)
    (stepped : System.next agent etags system label = some after) :
    Pointed (System.issues agent etags labels) after.world.journal := by
  -- A row is inserted by a task that was answered with its id, if it is not an import's.
  have writes {record : SnapshotRow} (made : system.made label = some (.insertSnapshot record)) :
      record.IsIssued (System.issues agent etags labels) := by
    obtain ⟨index, choice, role, continuation, -, -, found⟩ := System.made_located made
    rcases record_issued (reach_accounted reached) found with imported | ⟨exchange, heard, isIssue⟩
    · exact .inl imported
    · exact .inr (System.issued_of_trace reached index exchange heard _ isIssue)
  refine ⟨fun record member => ?_, ?_⟩
  · rcases snapshot_cases stepped member with old | made
    · exact pointed.recorded record old
    · exact writes made
  cases made : system.made label with
  | none =>
    have sameInstances := instances_unmade made stepped
    have sameSnapshots : after.world.journal.snapshots = system.world.journal.snapshots := by
      rcases System.journal_unmade made stepped with same | ⟨nowMs, opIds, -, same⟩
      · rw [same]
      · rw [same, (Journal.failOps_frame ..).2.2.2]
        rfl
    intro row member
    rw [sameInstances] at member
    unfold Journal.Points
    rw [sameSnapshots]
    exact pointed.points row member
  | some query =>
    obtain ⟨nowMs, ⟨answer, ran⟩ | ⟨-, same⟩⟩ := System.journal_made made stepped
    · refine Query.run_points ran apart (instances_named refused reached) pointed.recorded ?_
        pointed.points
      rintro record rfl
      exact writes made
    · rw [same]
      exact pointed.points

/-- **The pointer at the latest snapshot is always valid.** In every journal a node reaches, by any
interleaving of what it is asked to do, crashes and restarts included, each instance's pointer is
empty or names a row of the table that is of that instance: as long as the substrate never reuses
a snapshot id and issues none that starts as a capsule's row does. An empty text is no ULID. -/
theorem latest_snapshot_valid (agent : Agent) (etags : LeaseVersioning)
    (labels : List Label) (system : System)
    (reached : System.reach agent etags labels = some system)
    (refused : agent.parseUlid "" ≠ .ok ())
    (apart : IssuedApart (System.issues agent etags labels)) :
    ∀ row ∈ system.world.journal.instances.rows,
      row.latestSnapshotId = "" ∨ ∃ record ∈ system.world.journal.snapshots.rows,
        record.snapshotId = row.latestSnapshotId ∧ record.instanceId = row.instanceId := by
  have pointed : IssuedApart (System.issues agent etags labels) →
      Pointed (System.issues agent etags labels) system.world.journal := by
    refine run_induction (P := fun labels current =>
      IssuedApart (System.issues agent etags labels) →
        Pointed (System.issues agent etags labels) current.world.journal) ?_ ?_ reached
    · intro _
      exact ⟨by rintro record ⟨⟩, by rintro row ⟨⟩⟩
    · intro labels current label later early ih stepped apart
      rw [System.issues_snoc early stepped] at apart ⊢
      have before := ih apart.of_append
      have kept := before.step refused early apart.of_append stepped
      exact ⟨fun record member => (kept.recorded record member).mono, kept.points⟩
  exact (pointed apart).points

/-- An instance is captured and forked: its pointer names the capture, and its branch has none. -/
theorem latest_snapshot_valid_fork :
    ∃ system row, System.reach .plain freshVersions (forkInto "01BX5ZZKBKACTAV9WEVGEMMVRZ") =
      some system ∧ row ∈ system.world.journal.instances.rows ∧ row.latestSnapshotId = "snapshot" ∧
      ∃ record ∈ system.world.journal.snapshots.rows,
        record.snapshotId = row.latestSnapshotId ∧ record.instanceId = row.instanceId := by
  have reachable : ((System.reach .plain freshVersions
      (forkInto "01BX5ZZKBKACTAV9WEVGEMMVRZ")).any fun system =>
        (system.world.journal.getInstance ulid).any fun row =>
          row.latestSnapshotId = "snapshot") = true := by
    decide +kernel
  have apart : IssuedApart (System.issues .plain freshVersions
      (forkInto "01BX5ZZKBKACTAV9WEVGEMMVRZ")) := by
    decide +kernel
  obtain ⟨system, row, reached, found, points⟩ := exists_found_of_any reachable
  have member := (Table.mem_of_find? found).1
  have isPointer := points
  rcases latest_snapshot_valid .plain freshVersions _ system reached (by decide) apart row member
    with empty | recorded
  · exact absurd (isPointer.symm.trans empty) (by decide)
  · exact ⟨system, row, reached, member, isPointer, recorded⟩

end Barista.Node
