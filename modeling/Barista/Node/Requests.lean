import Barista.Foundation.Encoding
import Barista.Node.Admission
import Barista.Node.Statements

/-!
Contract: an operation keeps the request it was journaled with, and a repeated key is answered
with it.

Owns: the columns of an operation that a replay is checked against, in every run; which requests
the check cannot tell apart. Does not own: what a handler reads before it submits.
-/

namespace Barista.Node

open Foundation Fleet
open Prog (Ran ran_pure ran_step ran_bind)

/-! ### What an operation was asked to be -/

structure Asked where
  opId : String
  kind : OpKind
  instanceId : String
  idempotencyKey : String
  payload : String
deriving DecidableEq, Repr

def OperationRow.asked (op : OperationRow) : Asked :=
  ⟨op.opId, op.kind, op.instanceId, op.idempotencyKey, op.payload⟩

def Journal.requests (journal : Journal) : List Asked :=
  journal.operations.rows.map OperationRow.asked

namespace Journal

variable {journal next : Journal}

theorem requests_update {matching : OperationRow → Bool} {set : OperationRow → OperationRow}
    (written : next.operations.rows = journal.operations.rows.map fun op => if matching op
      then set op else op)
    (kept : ∀ op, (set op).asked = op.asked) : next.requests = journal.requests := by
  rw [requests, written, List.map_map]
  refine List.map_congr_left fun op _ => ?_
  by_cases hit : matching op = true <;> simp [hit, kept]

theorem Evolves.keeps_request {yields adds : OperationRow → Prop} {asked : Asked}
    (evolved : journal.Evolves next yields adds) (member : asked ∈ journal.requests) :
    asked ∈ next.requests := by
  obtain ⟨op, inTable, rfl⟩ := List.mem_map.mp member
  obtain ⟨change, added, written, kept, -⟩ := evolved
  obtain ⟨opId, instanceId, kind, key, payload, -, -⟩ := (kept op inTable).1
  have same : (change op).asked = op.asked := by
    simp [OperationRow.asked, opId, instanceId, kind, key, payload]
  rw [← same, requests, written]
  exact List.mem_map_of_mem (List.mem_append_left _ (List.mem_map_of_mem inTable))

theorem requests_failOps {opIds : List String} {message : String} {nowMs : Int} :
    (journal.failOps message nowMs opIds).requests = journal.requests := by
  induction opIds generalizing journal with
  | nil => rfl
  | cons opId rest ih =>
    rw [failOps, ih]
    exact requests_update rfl fun op => rfl

end Journal

section Runs

variable {agent : Agent} {etags : LeaseVersioning} {system after last : System}
  {label : Label} {labels : List Label} {asked : Asked}

/-- **No operation is ever asked to be another one**, or forgotten. -/
theorem requests_run (ran : run (System.next agent etags) system labels = some last)
    (member : asked ∈ system.world.journal.requests) : asked ∈ last.world.journal.requests := by
  refine run_invariant (P := fun current : System => asked ∈ current.world.journal.requests) ?_
    member ran
  intro current label later member stepped
  cases made : current.made label with
  | none =>
    rcases System.journal_unmade made stepped with same | ⟨nowMs, opIds, -, same⟩
    · rwa [same]
    · have opened : current.world.journal.openJournal.requests = current.world.journal.requests :=
        Journal.requests_update rfl fun _ => rfl
      rwa [same, Journal.requests_failOps, opened]
  | some query =>
    obtain ⟨nowMs, ⟨answer, ran⟩ | ⟨-, same⟩⟩ := System.journal_made made stepped
    · exact (Query.run_operations ran).keeps_request member
    · rwa [same]

end Runs

theorem Journal.findOp_of_requests {journal : Journal} {asked : Asked}
    (member : asked ∈ journal.requests) :
    ∃ op, journal.findOpByIdempotencyKey asked.idempotencyKey = some op ∧ op.asked = asked := by
  obtain ⟨op, inTable, rfl⟩ := List.mem_map.mp member
  cases found : journal.findOpByIdempotencyKey op.asked.idempotencyKey with
  | none =>
    have unnamed := Table.find?_none found op inTable
    simp [OperationRow.asked] at unnamed
  | some other =>
    obtain ⟨otherMember, keyed⟩ := Table.mem_of_find? found
    have keyColumn : OperationRow.idempotencyKey ∈
      [OperationRow.opId, OperationRow.idempotencyKey] := by simp
    have same := Table.eq_of_column keyColumn otherMember inTable (beq_iff_eq.mp keyed)
    exact ⟨other, rfl, by rw [same]⟩

/-! ### Which requests a replay is told apart from -/

/-- What of a payload its caller asked for: a fork's source, lineage and credentials are read
from the journal. -/
def OpPayload.request : OpPayload → OpPayload
  | .fork spec _ sourceSnapshotId _ requireCow _ _ =>
    .fork spec "" sourceSnapshotId ⟨"", "", "", ""⟩ requireCow "" none
  | .restoreCapsule spec capsuleId sourceSnapshotId _ =>
    .restoreCapsule spec capsuleId sourceSnapshotId ⟨"", "", "", ""⟩
  | payload => payload

/-- Two requests that are journaled under one text and differ in something it leaves out, or does
not delimit. -/
def Confused (first second : OpPayload) : Prop :=
  payloadDescriptor first = payloadDescriptor second ∧
    match first, second with
    | .resume snapshotId _, .resume other _ => snapshotId ≠ other
    | .createSnapshot name, .createSnapshot other => name ≠ other
    | .fork spec .., .fork other .. => spec ≠ other
    | .restoreCapsule spec capsuleId snapshotId _, .restoreCapsule other otherId otherSnapshot _ =>
      (spec, capsuleId, snapshotId) ≠ (other, otherId, otherSnapshot)
    | .fork .., .restoreCapsule .. | .restoreCapsule .., .fork .. => True
    | _, _ => False

instance (first second : OpPayload) : Decidable (Confused first second) := by
  unfold Confused
  refine @instDecidableAnd _ _ inferInstance ?_
  split <;> infer_instance

theorem Confused.kind {first second : OpPayload} (confused : Confused first second) :
    first.kind = second.kind ∧ second.kind ≠ .create := by
  obtain ⟨-, differ⟩ := confused
  cases first <;> cases second <;> first | exact False.elim differ | exact ⟨rfl, nofun⟩

/-! ### Replays -/

section Replays

variable {agent : Agent} {etags : LeaseVersioning} {labels : List Label}
  {before accepted : System} {label : Label}

/-- The submission a step journals, and the state it is recorded in. -/
def System.journaled (etags : LeaseVersioning) (system : System)
    (label : Label) : Option (SubmitArgs × InstanceState) :=
  match system.exchanged etags label with
  | some (_, ⟨.journal (.submitAtomically args), .ok (.journaled recorded)⟩) =>
      some (args, recorded)
  | _ => none

variable {args : SubmitArgs} {recorded : InstanceState}

theorem System.journaled_cases (stepped : System.next agent etags before label = some accepted)
    (journaled : before.journaled etags label = some (args, recorded)) :
    before.made label = some (.submitAtomically args) ∧ ∃ nowMs,
      before.world.journal.submitAtomically args nowMs = .ok
        (.journaled recorded, accepted.world.journal) := by
  unfold System.journaled at journaled
  split at journaled
  case h_2 => cases journaled
  next index _ _ exchanged =>
  cases journaled
  obtain ⟨choice, rfl, role, continuation, world, found, executed⟩ :=
    System.exchanged_cases exchanged
  obtain ⟨_, _, _, _, _, located, performed, rfl⟩ := Pool.step_cases stepped
  cases found.symm.trans located
  cases executed.symm.trans performed
  rcases query_cases executed with ⟨_, refused, -⟩ | ⟨result, journal, answered, ran, rfl⟩
  · cases refused
  · cases answered
    refine ⟨?_, choice.nowMs, ran⟩
    cases reachable : choice.journalError with
    | none => simp only [System.made, found, reachable]
    | some cause =>
      simp only [nodeMachine, World.exec, World.query, reachable] at executed
      cases executed

variable {journal : Journal}

theorem Journal.requests_journaled {next : Journal} {nowMs : Int}
    (submitted : journal.submitAtomically args nowMs = .ok (.journaled recorded, next)) :
    (newOperation args).asked ∈ next.requests := by
  obtain ⟨-, -, appended, -⟩ := submitAtomically_journaled submitted
  rw [requests, appended, List.map_append]
  exact List.mem_append_right _ List.mem_cons_self

theorem submitAtomically_replay {op : OperationRow}
    (used : journal.findOpByIdempotencyKey args.idempotencyKey = some op) (nowMs : Int) :
    Query.run (.submitAtomically args) nowMs journal = .ok (.replay op, journal) := by
  simp only [Query.run, Journal.submitAtomically, used]

end Replays

end Barista.Node
