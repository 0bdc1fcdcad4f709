import Barista.Node.Finishing

/-!
Contract: when a resume that does not require memory brings its instance back.

Whether a resume restores memory or boots cold is decided from the journal, before the substrate is
asked. A snapshot that passes every check of the journal's is then restored or the resume fails:
there is no second decision once the substrate has refused.

Owns: how the execution of a resume ends when the runtime refuses to restore and would start. Does
not own: why a runtime refuses.
-/

namespace Barista.Node

open Foundation Fleet
open Prog (Ran ran_bind ran_step ran_pure)

variable {agent : Agent} {op : OperationRow} {row : InstanceRow}
  {snapshots : String → Option SnapshotRow} {snapshotId : Option String}
  {trace part : NodeTrace} {id : String}

/-! ### What the execution is answered -/

/-- The journal answers, with one spec and one latest snapshot of the instance and with the rows of
its snapshots; the runtime refuses to resume the instance, and would start it. -/
structure Unrestorable (id : String) (row : InstanceRow) (snapshots : String → Option SnapshotRow)
    (trace : NodeTrace) : Prop where
  journaled : ∀ query cause, ⟨.journal query, .error cause⟩ ∉ trace
  read : ∀ found, ⟨.journal (.getInstance id), .ok found⟩ ∈ trace → ∃ current,
    found = some current ∧ current.spec = row.spec ∧
      current.latestSnapshotId = row.latestSnapshotId
  recorded : ∀ named found, ⟨.journal (.getSnapshot named), .ok found⟩ ∈ trace →
    found = snapshots named
  refused : ∀ target, ⟨.runtime (.resume id target), .ok ()⟩ ∉ trace
  startable : ∀ spec guest cause, ⟨.runtime (.start id spec guest), .error cause⟩ ∉ trace

theorem Unrestorable.mono (answers : Unrestorable id row snapshots trace) (inside : part ⊆ trace) :
    Unrestorable id row snapshots part where
  journaled query cause member := answers.journaled query cause (inside member)
  read found member := answers.read found (inside member)
  recorded named found member := answers.recorded named found (inside member)
  refused target member := answers.refused target (inside member)
  startable spec guest cause member := answers.startable spec guest cause (inside member)

theorem Unrestorable.answered (answers : Unrestorable id row snapshots trace) {query : Query}
    {answer : Except String query.Answer} (member : ⟨.journal query, answer⟩ ∈ trace) :
    ∃ found, answer = .ok found := by
  cases answer with
  | error cause => exact absurd member (answers.journaled query cause)
  | ok found => exact ⟨found, rfl⟩

/-! ### What it decides -/

def resumedFrom (row : InstanceRow) (snapshots : String → Option SnapshotRow) :
    Option String → Option SnapshotRow
  | some named => snapshots named
  | none => if row.latestSnapshotId = "" then none else snapshots row.latestSnapshotId

/-- The journal would have this snapshot restored from memory. -/
def Restorable (agent : Agent) (row : InstanceRow) (snapshot : SnapshotRow) : Prop :=
  snapshot.kind = .memoryAndDisk ∧ snapshot.templateHash = agent.templateHash row.spec ∧
    snapshot.runtimeBundleRef = agent.runtimeVersion ∧
    (snapshot.tier = .objectStore → snapshot.cpuClass = agent.cpuClass)

theorem decide_fromMemory_iff {found : Option SnapshotRow} {requireMemory : Bool} :
    Restore.decide agent found row requireMemory = .fromMemory ↔
      ∃ snapshot, found = some snapshot ∧ Restorable agent row snapshot := by
  cases found with
  | none =>
    simp only [Restore.decide, Restore.fallback]
    split <;> simp
  | some snapshot =>
    rw [Restore.decide_fromMemory]
    simp [Restorable]

theorem decide_spec {current : InstanceRow} (same : current.spec = row.spec)
    {found : Option SnapshotRow} {requireMemory : Bool} :
    Restore.decide agent found current requireMemory =
      Restore.decide agent found row requireMemory := by
  unfold Restore.decide
  rw [same]

/-- Without `require_memory`, what is not restored from memory is booted cold. -/
theorem decide_permissive {found : Option SnapshotRow}
    (other : Restore.decide agent found row false ≠ .fromMemory) :
    ∃ reason why, Restore.decide agent found row false = .coldBoot reason why := by
  unfold Restore.decide at other ⊢
  split at other
  · exact ⟨_, _, rfl⟩
  · split_ifs at other ⊢
    · exact ⟨_, _, rfl⟩
    · exact ⟨_, _, rfl⟩
    · exact ⟨_, _, rfl⟩
    · exact ⟨_, _, rfl⟩
    · exact absurd rfl other

theorem snapshotToRestore_found (answers : Unrestorable id row snapshots part)
    {found : Option SnapshotRow} (ran : Ran (snapshotToRestore id snapshotId) part found) :
    found = resumedFrom row snapshots snapshotId := by
  rcases snapshotToRestore_ran ran with
    ⟨named, answer, rfl, looked, rfl⟩ | ⟨rfl, read, reading, rest⟩
  · obtain ⟨found, rfl⟩ := answers.answered looked
    exact answers.recorded named found looked
  · obtain ⟨found, rfl⟩ := answers.answered reading
    obtain ⟨current, rfl, -, latest⟩ := answers.read found reading
    rcases rest with ⟨absent, -⟩ | ⟨other, same, ⟨unset, rfl⟩ | ⟨set, answer, looked, rfl⟩⟩
    · cases absent
    · cases same
      rw [latest] at unset
      simp [resumedFrom, unset]
    · cases same
      obtain ⟨found, rfl⟩ := answers.answered looked
      rw [answers.recorded _ found looked, latest]
      rw [latest] at set
      simp only [resumedFrom, if_neg set]
      rfl

theorem resolveRestore_decided (answers : Unrestorable id row snapshots part)
    {found : Option InstanceRow} {decision : Restore}
    (ran : Ran (resolveRestore agent id snapshotId false) part (found, decision)) :
    found.isSome = true ∧
      decision = Restore.decide agent (resumedFrom row snapshots snapshotId) row false := by
  obtain ⟨early, snapshot, read, inside, looked, reading, rfl, rfl⟩ := resolveRestore_ran ran
  obtain ⟨found, rfl⟩ := answers.answered reading
  obtain ⟨current, rfl, spec, -⟩ := answers.read found reading
  obtain rfl := snapshotToRestore_found (answers.mono inside) looked
  exact ⟨rfl, decide_spec spec⟩

/-! ### How its work ends -/

theorem coldBoot_ran (answers : Unrestorable op.instanceId row snapshots part) {why : String}
    {current : Option InstanceRow} (present : current.isSome = true) {work : Work}
    (ran : Ran (coldBoot op why current) part work) :
    work.result = .ok () ∧ "; ".intercalate work.degraded ≠ "" := by
  obtain ⟨current, rfl⟩ := Option.isSome_iff_exists.mp present
  obtain ⟨_, ⟨⟩, _, rfl, -, announces⟩ := ran_bind ran
  obtain ⟨_, ⟨⟩, _, rfl, -, boots⟩ := ran_bind announces
  obtain ⟨answer, _, rfl, returned⟩ := ran_step boots
  obtain ⟨-, rfl⟩ := ran_pure returned
  cases answer with
  | error cause =>
    exact absurd (List.mem_append_right _ (List.mem_append_right _ List.mem_cons_self))
      (answers.startable _ _ cause)
  | ok started =>
    refine ⟨rfl, ?_⟩
    -- The downgrade is the one text of the list.
    change String.intercalate "; " [_] ≠ _
    rw [String.intercalate_singleton]
    simp

/-- **How the work of a resume ends** where the runtime refuses to restore and would start: it fails
on a snapshot the journal would have restored, and is a cold boot otherwise. -/
theorem runResume_ended (answers : Unrestorable op.instanceId row snapshots part) {epoch : Nat}
    {work : Work} (ran : Ran (runResume agent op snapshotId false epoch) part work) :
    (Restore.decide agent (resumedFrom row snapshots snapshotId) row false = .fromMemory →
        ∃ cause, work.result = .error cause) ∧
      (Restore.decide agent (resumedFrom row snapshots snapshotId) row false ≠ .fromMemory →
        work.result = .ok () ∧ "; ".intercalate work.degraded ≠ "") := by
  obtain ⟨stepping, ⟨⟩, _, rfl, -, resolves⟩ := ran_bind ran
  obtain ⟨resolving, ⟨found, decision⟩, acting, rfl, resolved, acts⟩ := ran_bind resolves
  have inside : resolving ⊆ stepping ++ (resolving ++ acting) := by simp
  obtain ⟨present, rfl⟩ := resolveRestore_decided (answers.mono inside) resolved
  constructor
  · intro memory
    rw [memory] at acts
    obtain ⟨_, ⟨⟩, _, rfl, -, resumes⟩ := ran_bind acts
    obtain ⟨answer, _, rfl, returned⟩ := ran_step resumes
    cases answer with
    | ok resumed => exact absurd (by simp) (answers.refused (resumeTarget found snapshotId))
    | error cause => exact ⟨mapRuntimeErr cause, by rw [(ran_pure returned).2]⟩
  · intro other
    obtain ⟨reason, why, booted⟩ := decide_permissive other
    rw [booted] at acts
    have within : acting ⊆ stepping ++ (resolving ++ acting) := by simp
    exact coldBoot_ran (answers.mono within) present acts

/-! ### How the resume ends -/

/-- A finalize of the operation as done, with its instance `RUNNING` and a text that says what was
lost. -/
structure Revived (op : OperationRow) (args : FinishArgs) : Prop where
  opId : args.opId = op.opId
  instanceId : args.instanceId = op.instanceId
  outcome : args.outcome = .ok ()
  state : args.state = .running
  said : args.degraded ≠ ""

/-- The operation ends `DONE`, its outcome recorded, with its instance `RUNNING` and a text that says
what was lost, and the instance is never `FAILED`. -/
structure CameBack (op : OperationRow) (trace : NodeTrace) : Prop where
  done : ∃ args finalized, ⟨.journal (.finishOperation args), .ok finalized⟩ ∈ trace ∧
    Revived op args ∧ finalized.outcomeRecorded = true
  unfailed : ∀ args answer, ⟨.journal (.finishOperation args), answer⟩ ∈ trace →
    args.state ≠ .failed

def Uncanceled (trace : NodeTrace) : Prop :=
  ∀ args finalized, ⟨.journal (.finishOperation args), .ok finalized⟩ ∈ trace →
    finalized.outcomeRecorded = true

theorem compensate_done {kind : OpKind} {work reported : Work} (succeeded : work.result = .ok ())
    (ran : Ran (compensate agent kind op work) part reported) : reported = work := by
  unfold compensate at ran
  rw [succeeded] at ran
  exact (ran_pure ran).2

variable {executor : Executor}

theorem resume_written (executed : Executed agent executor trace)
    (resumes : executor.kind = .resume) (recorded : executor.recorded = .resuming) :
    (∀ cause, executed.work.result = .error cause → executed.finalizing.args.state = .failed) ∧
      (executed.work.result = .ok () → executed.finalizing.args.state = .running ∧
        executed.finalizing.args.outcome = .ok () ∧
        executed.finalizing.args.degraded = "; ".intercalate executed.work.degraded) := by
  constructor
  · intro cause failed
    simp only [Finalizing.args, finishArgs, settledState, failed, resumes]
    rfl
  · intro succeeded
    have same := compensate_done succeeded executed.finalizing.compensated
    refine ⟨?_, ?_, ?_⟩
    · simp only [Finalizing.args, finishArgs, settledState, succeeded, resumes, recorded]
      rfl
    · simp only [Finalizing.args, finishArgs, same, succeeded]
    · simp only [Finalizing.args, finishArgs, same]

theorem Unrestorable.executed (answers : Unrestorable id row snapshots trace)
    (ran : Ran (execute agent executor) trace ()) : Nonempty (Executed agent executor trace) := by
  rcases execute_ran ran with executed | ⟨rotating, message, inside, refused⟩
  · exact executed
  · obtain ⟨query, cause, member⟩ := rotateEpoch_refused refused
    exact absurd (inside member) (answers.journaled query cause)

section Ends

variable (resumes : executor.kind = .resume) (recorded : executor.recorded = .resuming)
  (payload : executor.payload = .resume snapshotId false)
  (answers : Unrestorable executor.op.instanceId row snapshots trace)
  (ran : Ran (execute agent executor) trace ())

include resumes recorded payload answers ran

theorem resume_fails {snapshot : SnapshotRow}
    (resumed : resumedFrom row snapshots snapshotId = some snapshot)
    (restorable : Restorable agent row snapshot) :
    ∃ args answer, ⟨.journal (.finishOperation args), answer⟩ ∈ trace ∧ args.state = .failed := by
  obtain ⟨executed⟩ := answers.executed ran
  have worked := executed.worked
  rw [payload] at worked
  obtain ⟨cause, failed⟩ := (runResume_ended (answers.mono executed.works) worked).1
    (decide_fromMemory_iff.mpr ⟨snapshot, resumed, restorable⟩)
  exact ⟨_, _, executed.finishes, (resume_written executed resumes recorded).1 cause failed⟩

theorem resume_boots
    (unrestorable : ∀ snapshot, resumedFrom row snapshots snapshotId = some snapshot →
    ¬ Restorable agent row snapshot) :
    (∃ args finalized, ⟨.journal (.finishOperation args), .ok finalized⟩ ∈ trace) ∧
      ∀ args answer, ⟨.journal (.finishOperation args), answer⟩ ∈ trace →
        Revived executor.op args := by
  obtain ⟨executed⟩ := answers.executed ran
  have worked := executed.worked
  rw [payload] at worked
  have other : Restore.decide agent (resumedFrom row snapshots snapshotId) row false ≠
    .fromMemory := by
    intro memory
    obtain ⟨snapshot, resumed, restorable⟩ := decide_fromMemory_iff.mp memory
    exact unrestorable snapshot resumed restorable
  obtain ⟨succeeded, degraded⟩ := (runResume_ended (answers.mono executed.works) worked).2 other
  obtain ⟨running, done, said⟩ := (resume_written executed resumes recorded).2 succeeded
  have finished := executed.finishes
  obtain ⟨finalized, answered⟩ := answers.answered finished
  rw [answered] at finished
  refine ⟨⟨_, finalized, finished⟩, fun args answer member => ?_⟩
  rw [(executed.finish_only member).1]
  exact ⟨rfl, rfl, done, running, said ▸ degraded⟩

end Ends

/-- **When a resume without `require_memory` never costs the instance.** Of the executions of a
resume that come to their end, where the runtime refuses to resume the instance and would start it,
those end `DONE` with the instance `RUNNING` and say what was lost, and never `FAILED`, that were not
cancelled and whose journal holds no snapshot to resume from, or one that fails a check of the
journal's. One that was cancelled leaves the instance `RUNNING` and says what was lost all the same. A
snapshot that passes the checks and that the substrate cannot restore costs the instance. -/
theorem resume_comes_back_iff (agent : Agent) (executor : Executor) (snapshotId : Option String)
    (row : InstanceRow) (snapshots : String → Option SnapshotRow) (trace : NodeTrace)
    (resumes : executor.kind = .resume) (recorded : executor.recorded = .resuming)
    (payload : executor.payload = .resume snapshotId false)
    (answers : Unrestorable executor.op.instanceId row snapshots trace)
    (ran : Ran (execute agent executor) trace ()) :
    (CameBack executor.op trace ↔ Uncanceled trace ∧
      ∀ snapshot, resumedFrom row snapshots snapshotId = some snapshot →
        ¬ Restorable agent row snapshot) ∧
    ((∀ args answer, ⟨.journal (.finishOperation args), answer⟩ ∈ trace →
      Revived executor.op args) ↔ ∀ snapshot, resumedFrom row snapshots snapshotId = some snapshot →
        ¬ Restorable agent row snapshot) := by
  have boots := resume_boots resumes recorded payload answers ran
  have costs {snapshot : SnapshotRow}
      (resumed : resumedFrom row snapshots snapshotId = some snapshot)
      (restorable : Restorable agent row snapshot) :=
    resume_fails resumes recorded payload answers ran resumed restorable
  refine ⟨⟨fun back => ⟨?_, fun snapshot resumed restorable => ?_⟩, ?_⟩,
    fun kept snapshot resumed restorable => ?_, fun unrestorable => (boots unrestorable).2⟩
  · -- The execution finalizes once, so the outcome it recorded is the only one.
    obtain ⟨_, _, done, -, isRecorded⟩ := back.done
    obtain ⟨executed⟩ := answers.executed ran
    intro args finalized member
    cases (executed.finish_only member).2.trans (executed.finish_only done).2.symm
    exact isRecorded
  · obtain ⟨args, answer, member, failed⟩ := costs resumed restorable
    exact back.unfailed args answer member failed
  · rintro ⟨isRecorded, unrestorable⟩
    obtain ⟨⟨args, finalized, member⟩, kept⟩ := boots unrestorable
    refine ⟨⟨args, finalized, member, kept _ _ member, isRecorded _ _ member⟩, ?_⟩
    intro args answer member failed
    cases (kept args answer member).state.symm.trans failed
  · obtain ⟨args, answer, member, failed⟩ := costs resumed restorable
    cases (kept args answer member).state.symm.trans failed

/-! ### A snapshot whose bytes are gone -/

def pausedRow : InstanceRow :=
  ⟨ulid, .pinned ulid 0, .resuming, false, "", 0, 0, none, "s", "", none, none, none, none, none, 0⟩

/-- The record of what a pause left, with memory or without. -/
def pauseRecord (agent : Agent) (kind : SnapshotKind) : SnapshotRow :=
  ⟨"s", ulid, kind, agent.cpuClass, agent.templateHash pausedRow.spec, agent.runtimeVersion,
    .local_, 0, ""⟩

def resumeExecutor : Executor where
  kind := .resume
  op := ⟨"o", .resume, ulid, "k", "", .running, "", .unspecified, "", "", 0, none, false,
    .unspecified, true⟩
  payload := .resume none false
  recorded := .resuming

def recordedAnswers (record : SnapshotRow) : (query : Query) → query.Answer
  | .getInstance _ => some pausedRow
  | .getSnapshot _ | .snapshotNamed .. => some record
  | .listInstances | .heldLeases | .listSnapshots _ => []
  | .submitAtomically _ => .conflict
  | .finishOperation _ => ⟨false, true⟩
  | .issueExecutionEpoch => 1
  | .setInstanceState .. => 0
  | .setInstanceReady .. | .claimWake .. => false
  | .findOpByIdempotencyKey _ => none
  | .setOpStep .. | .setOpFrozeWorkload _ | .setOpForkMode .. | .finishOpCanceled ..
  | .setRunEpoch .. | .forgetCredentials _ | .setTtlDeadline .. | .setWakeAt ..
  | .setInstanceEpoch .. | .holdLease .. | .setLeaseInstance .. | .markLeaseFencing _
  | .releaseLease _ | .insertSnapshot _ | .deleteSnapshot _ | .deleteCapsule ..
  | .insertEvent _ => ()

/-- That journal, and a substrate that no longer has the bytes. -/
def goneAnswers (record : SnapshotRow) : (act : NodeAct) → NodeSig.Ans act
  | .journal query => .ok (recordedAnswers record query)
  | .runtime (.resume ..) => .error (.other "no such snapshot")
  | .runtime (.start ..) => .ok ()
  | .runtime call => call.succeed
  | .bucket _ (.get _) | .bucket _ (.put ..) => .error .unavailable
  | .runState _ => .ok (some pausedRow)
  | .held => {}
  | .now => 0
  | .ulid => ""
  | .listDesired => .ok []
  | .getDesired _ => .ok none
  | .outageAfterRenewals .. | .fleet => false
  | .holdsReported | .vanishedCounts => []
  | .beyond call => call.succeed
  | .takeWrites | .dropWrites | .hold .. | .forget _ | .reportHold _ | .setVanishedCounts _
  | .spawn _ | .join | .beginTick | .endTick => ()

def goneResume (record : SnapshotRow) : NodeTrace :=
  ((execute .plain resumeExecutor).played (goneAnswers record)).1

theorem goneResume_unrestorable (record : SnapshotRow) :
    Unrestorable ulid pausedRow (fun _ => some record) (goneResume record) where
  journaled query cause member := by cases Prog.mem_played member
  read found member := by
    cases Prog.mem_played member
    exact ⟨pausedRow, rfl, rfl, rfl⟩
  recorded named found member := by
    cases Prog.mem_played member
    rfl
  refused target member := by cases Prog.mem_played member
  startable spec guest cause member := by cases Prog.mem_played member

/-- A pause that kept no memory is followed by a cold boot. -/
theorem diskOnly_comes_back :
    Unrestorable ulid pausedRow (fun _ => some (pauseRecord .plain .diskOnly))
        (goneResume (pauseRecord .plain .diskOnly)) ∧
      CameBack resumeExecutor.op (goneResume (pauseRecord .plain .diskOnly)) := by
  have answers := goneResume_unrestorable (pauseRecord .plain .diskOnly)
  refine ⟨answers, (resume_comes_back_iff .plain resumeExecutor none pausedRow _ _ rfl
    rfl rfl answers (Prog.ran_played ..)).1.mpr ⟨fun args finalized member => ?_, ?_⟩⟩
  · cases Prog.mem_played member
    rfl
  intro snapshot resumed restorable
  cases resumed
  cases restorable.1

/-- **A pause that kept its memory, on a substrate that no longer has it, costs the instance**: the
resume that did not require memory fails it. -/
theorem gone_memory_fails :
    Unrestorable ulid pausedRow (fun _ => some (pauseRecord .plain .memoryAndDisk))
        (goneResume (pauseRecord .plain .memoryAndDisk)) ∧
      Ran (execute .plain resumeExecutor) (goneResume (pauseRecord .plain .memoryAndDisk)) () ∧
      ⟨.runtime (.resume ulid none), .error (.other "no such snapshot")⟩ ∈
        goneResume (pauseRecord .plain .memoryAndDisk) ∧
      (∃ args answer, ⟨.journal (.finishOperation args), answer⟩ ∈
        goneResume (pauseRecord .plain .memoryAndDisk) ∧ args.state = .failed) ∧
      ¬ CameBack resumeExecutor.op (goneResume (pauseRecord .plain .memoryAndDisk)) := by
  have answers := goneResume_unrestorable (pauseRecord .plain .memoryAndDisk)
  have ran :
      Ran (execute .plain resumeExecutor) (goneResume (pauseRecord .plain .memoryAndDisk)) () :=
    Prog.ran_played ..
  obtain ⟨args, answer, member, failed⟩ := resume_fails rfl rfl rfl answers ran rfl
    ⟨rfl, rfl, rfl, nofun⟩
  exact ⟨answers, ran, List.mem_of_getElem? (i := 10) rfl, ⟨args, answer, member, failed⟩,
    fun back => back.unfailed args answer member failed⟩

end Barista.Node
