import Mathlib.Data.Set.Function
import Barista.Foundation.Interleaving
import Barista.Capsule.Registry

/-!
Contract: capsule verbs are reserved under an idempotency key before any of their work is done.

A verb writes its row first. The key is unique, so of all calls with one key a single one reserves it;
the others are answered with its row if they ask for the same thing. The detached work settles the
row once, unless a restart has settled it before.

Owns: the table of capsule operations, its statements, the request fingerprints, and what calls with
one key are answered in every run.
-/

namespace Barista.Capsule

open Foundation
open Node (ErrorReason OperationState)

/-! ### Requests -/

def CapsuleStorage.tryFrom (number : Int32) : Option CapsuleStorage :=
  if number = 0 then some .unspecified
  else if number = 1 then some .localDir
  else if number = 2 then some .objectStore
  else none

/-- The tier a request asks for: an unknown one is the local directory. -/
def CapsuleStorage.ofRequest (number : Int32) : CapsuleStorage := (tryFrom number).getD .localDir

def CapsuleStorage.digit : CapsuleStorage → String
  | .unspecified => "0"
  | .localDir => "1"
  | .objectStore => "2"

inductive CapsuleRequest where
  | exportCapsule (snapshotId : String) (tier : Int32)
  | importCapsule (manifest : CapsuleManifest) (storage : Int32)
  | deleteCapsule (capsuleId : String)
deriving DecidableEq

namespace CapsuleRequest

def verb : CapsuleRequest → String
  | exportCapsule .. => "export_capsule"
  | importCapsule .. => "import_capsule"
  | deleteCapsule .. => "delete_capsule"

def fingerprint (sha256 : List UInt8 → Digest) : CapsuleRequest → String
  | exportCapsule snapshotId tier =>
    toString snapshotId.utf8ByteSize ++ ":" ++ snapshotId ++ ":" ++
      (CapsuleStorage.ofRequest tier).digit
  | importCapsule manifest storage =>
    (capsuleId sha256 manifest).val ++ ":" ++ (CapsuleStorage.ofRequest storage).digit
  | deleteCapsule capsuleId => toString capsuleId.utf8ByteSize ++ ":" ++ capsuleId

end CapsuleRequest

/-- A request with its free choices settled: known tiers, and manifests as their ids say them. -/
inductive CanonicalRequest where
  | exportCapsule (snapshotId : String) (tier : CapsuleStorage)
  | importCapsule (manifest : CapsuleManifest) (storage : CapsuleStorage)
  | deleteCapsule (capsuleId : String)

def CapsuleRequest.canonical : CapsuleRequest → CanonicalRequest
  | .exportCapsule snapshotId tier => .exportCapsule snapshotId (.ofRequest tier)
  | .importCapsule manifest storage => .importCapsule manifest.canonical (.ofRequest storage)
  | .deleteCapsule capsuleId => .deleteCapsule capsuleId

/-- What the call of a verb is refused for before the table is touched. -/
def CapsuleRequest.refusal (request : CapsuleRequest) (idempotencyKey : String) : Option String :=
  if idempotencyKey = "" then some "idempotency_key is required"
  else match request with
    | .deleteCapsule capsuleId => if capsuleId = "" then some "capsule_id is required" else none
    | _ => none

theorem append_digit {first second : String} {one other : CapsuleStorage}
    (same : first ++ ":" ++ one.digit = second ++ ":" ++ other.digit) :
    first = second ∧ one = other := by
  have ends : (first ++ ":" ++ one.digit).toList.reverse.take 1 =
      (second ++ ":" ++ other.digit).toList.reverse.take 1 := by rw [same]
  have tiers : one = other := by
    cases one <;> cases other <;> first | rfl | simp [CapsuleStorage.digit] at ends
  subst tiers
  exact ⟨(String.append_left_inj _).mp ((String.append_left_inj _).mp same), rfl⟩

/-- The streams of the manifests a request brings are among those given. -/
def CapsuleRequest.Within (streams : Set (List UInt8)) : CapsuleRequest → Prop
  | .importCapsule manifest _ => manifest.stream ∈ streams
  | _ => True

/-- **A fingerprint tells what is asked for**: two requests of one verb have one fingerprint exactly
when they are one canonical request. -/
theorem fingerprint_eq_iff {sha256 : List UInt8 → Digest} {streams : Set (List UInt8)}
    (injective : Set.InjOn sha256 streams) {left right : CapsuleRequest}
    (leftWithin : left.Within streams) (rightWithin : right.Within streams) :
    left.verb = right.verb ∧ left.fingerprint sha256 = right.fingerprint sha256 ↔
      left.canonical = right.canonical := by
  cases left with
  | exportCapsule snapshotId tier =>
    cases right with
    | exportCapsule otherId otherTier =>
      simp only [CapsuleRequest.verb, true_and, CapsuleRequest.fingerprint,
        CapsuleRequest.canonical, CanonicalRequest.exportCapsule.injEq]
      constructor
      · intro same
        obtain ⟨front, tiers⟩ := append_digit same
        exact ⟨after_decimal front, tiers⟩
      · rintro ⟨rfl, tiers⟩
        rw [tiers]
    | _ => simp [CapsuleRequest.verb, CapsuleRequest.canonical]
  | importCapsule manifest storage =>
    cases right with
    | importCapsule other otherStorage =>
      simp only [CapsuleRequest.verb, true_and, CapsuleRequest.fingerprint,
        CapsuleRequest.canonical, CanonicalRequest.importCapsule.injEq]
      rw [← capsuleId_eq_iff fun same => injective leftWithin rightWithin same]
      constructor
      · intro same
        obtain ⟨ids, tiers⟩ := append_digit same
        exact ⟨Subtype.ext ids, tiers⟩
      · rintro ⟨ids, tiers⟩
        rw [ids, tiers]
    | _ => simp [CapsuleRequest.verb, CapsuleRequest.canonical]
  | deleteCapsule capsuleId =>
    cases right with
    | deleteCapsule otherId =>
      simp only [CapsuleRequest.verb, true_and, CapsuleRequest.fingerprint,
        CapsuleRequest.canonical, CanonicalRequest.deleteCapsule.injEq]
      constructor
      · exact after_decimal
      · rintro rfl
        rfl
    | _ => simp [CapsuleRequest.verb, CapsuleRequest.canonical]

theorem fingerprint_ne_empty (sha256 : List UInt8 → Digest) (request : CapsuleRequest) :
    request.fingerprint sha256 ≠ "" := by
  intro empty
  have chars := congrArg String.toList empty
  cases request <;> simp [CapsuleRequest.fingerprint] at chars

/-! ### The table -/

structure CapsuleOpRow where
  opId : String
  kind : String
  capsuleId : String
  idempotencyKey : String
  request : String
  state : OperationState
  errorReason : ErrorReason
  errorMessage : String
  createdAtMs : Int
  finishedAtMs : Option Int
deriving DecidableEq

abbrev CapsuleOps := Table [CapsuleOpRow.opId, CapsuleOpRow.idempotencyKey]

inductive CapsuleOpBegin where
  | started (row : CapsuleOpRow)
  | replay (row : CapsuleOpRow)
  | mismatch (row : CapsuleOpRow)
deriving DecidableEq

namespace CapsuleOps

/-- Reserve a key, or answer with the row that has it. A row from before there were fingerprints is
bound by the first call with its verb. `none` where the row cannot be read back. -/
def beginCapsuleOp (ops : CapsuleOps) (opId kind request idempotencyKey : String) (now : Int) :
    Option CapsuleOpBegin × CapsuleOps :=
  let row : CapsuleOpRow :=
    ⟨opId, kind, "", idempotencyKey, request, .running, .unspecified, "", now, none⟩
  match ops.insert? row with
  | some next => (some (.started row), next)
  | none =>
    match ops.find? fun row => row.idempotencyKey = idempotencyKey with
    | none => (none, ops)
    | some existing =>
      if existing.kind = kind ∧ existing.request = "" then
        (some (.replay { existing with request := request }),
          ops.update (fun row => row.opId = existing.opId && row.request = "")
            (fun row => { row with request := request }) (by simp))
      else if existing.kind = kind ∧ existing.request = request then
        (some (.replay existing), ops)
      else (some (.mismatch existing), ops)

def finishCapsuleOp (ops : CapsuleOps) (opId : String)
    (outcome : Except (ErrorReason × String) String) (now : Int) : CapsuleOps :=
  ops.update (fun row => row.opId = opId && row.state = .running)
    (fun row => match outcome with
      | .ok capsuleId => { row with
          capsuleId := capsuleId, state := .done, errorReason := .unspecified, errorMessage := ""
          finishedAtMs := some now }
      | .error (reason, message) => { row with
          capsuleId := "", state := .failed, errorReason := reason, errorMessage := message
          finishedAtMs := some now })
    (by cases outcome <;> simp)

/-- Settle the reservations whose work died with the process. -/
def recoverCapsuleOps (ops : CapsuleOps) (now : Int) : CapsuleOps :=
  ops.update (fun row => row.state = .running)
    (fun row => { row with
      state := .failed, errorReason := .substrateUnavailable
      errorMessage := "node restarted before the capsule operation completed"
      finishedAtMs := some now })
    (by simp)

variable {ops : CapsuleOps} {row : CapsuleOpRow}

theorem beginCapsuleOp_cases {opId kind request idempotencyKey : String} {now : Int}
    {answer : Option CapsuleOpBegin} {next : CapsuleOps}
    (began : ops.beginCapsuleOp opId kind request idempotencyKey now = (answer, next))
    (fresh : opId ∉ ops.rows.map CapsuleOpRow.opId)
    (fingerprinted : ∀ row ∈ ops.rows, row.request ≠ "") :
    (∃ row, answer = some (.started row) ∧ row.idempotencyKey = idempotencyKey ∧ row.kind = kind ∧
      row.request = request ∧ next.rows = ops.rows ++ [row] ∧
      ∀ old ∈ ops.rows, old.idempotencyKey ≠ idempotencyKey) ∨
    ∃ existing ∈ ops.rows, existing.idempotencyKey = idempotencyKey ∧ next = ops ∧
      (existing.kind = kind ∧ existing.request = request ∧ answer = some (.replay existing) ∨
        ¬ (existing.kind = kind ∧ existing.request = request) ∧
        answer = some (.mismatch existing)) := by
  unfold beginCapsuleOp at began
  cases inserted : ops.insert?
      ⟨opId, kind, "", idempotencyKey, request, .running, .unspecified, "", now, none⟩ with
  | some next =>
    simp only [inserted] at began
    cases began
    obtain ⟨rows, apart⟩ := Table.insert?_rows inserted
    exact .inl ⟨_, rfl, rfl, rfl, rfl, rows, apart _ (by simp)⟩
  | none =>
    have clash : ∃ existing, ops.find? (fun row => row.idempotencyKey = idempotencyKey) =
      some existing := by
      cases found : ops.find? fun row => row.idempotencyKey = idempotencyKey with
      | some existing => exact ⟨existing, rfl⟩
      | none =>
        obtain ⟨column, member, old, oldMember, same⟩ := Table.insert?_none inserted
        rcases List.mem_pair.mp member with rfl | rfl
        · exact absurd (List.mem_map.mpr ⟨old, oldMember, same⟩) fresh
        · exact absurd same (of_decide_eq_false (Table.find?_none found old oldMember))
    obtain ⟨existing, found⟩ := clash
    obtain ⟨member, named⟩ := Table.mem_of_find? found
    refine .inr ⟨existing, member, of_decide_eq_true named, ?_⟩
    have bound : ¬ (existing.kind = kind ∧ existing.request = "") := fun both =>
      fingerprinted existing member both.2
    simp only [inserted, found, if_neg bound] at began
    by_cases same : existing.kind = kind ∧ existing.request = request
    · rw [if_pos same] at began
      cases began
      exact ⟨rfl, .inl ⟨same.1, same.2, rfl⟩⟩
    · rw [if_neg same] at began
      cases began
      exact ⟨rfl, .inr ⟨same, rfl⟩⟩

end CapsuleOps

/-! ### Runs -/

/-- A call of a capsule verb and what the table answered. -/
structure Call where
  request : CapsuleRequest
  idempotencyKey : String
  answer : Option CapsuleOpBegin
deriving DecidableEq

namespace Call

def Started (call : Call) : Prop := ∃ row, call.answer = some (.started row)

def Replayed (call : Call) : Prop := ∃ row, call.answer = some (.replay row)

def Mismatched (call : Call) : Prop := ∃ row, call.answer = some (.mismatch row)

/-- A call has one of the three answers. -/
def Answered (call : Call) : Prop := call.Started ∨ call.Replayed ∨ call.Mismatched

/-- What a call is answered after one with its key: it starts nothing, and if the earlier one did, it
is a replay of that one exactly when it asks for the same thing. -/
structure Answers (earlier later : Call) : Prop where
  started : ¬ later.Started
  replayed : earlier.Started →
    (later.Replayed ↔ earlier.request.canonical = later.request.canonical)
  mismatched : earlier.Started →
    (later.Mismatched ↔ earlier.request.canonical ≠ later.request.canonical)

end Call

structure Ledger where
  ops : CapsuleOps
  calls : List Call

inductive OpLabel where
  /-- A verb is called; the id is the one generated for it. -/
  | begin_ (opId : String) (request : CapsuleRequest) (idempotencyKey : String) (now : Int)
  /-- Detached work settles its reservation, with its result or after a panic. -/
  | finish (opId : String) (outcome : Except (ErrorReason × String) String) (now : Int)
  | restart (now : Int)

def OpLabel.Within (streams : Set (List UInt8)) : OpLabel → Prop
  | begin_ _ request _ _ => request.Within streams
  | _ => True

namespace Ledger

def next (sha256 : List UInt8 → Digest) (ledger : Ledger) : OpLabel → Option Ledger
  | .begin_ opId request idempotencyKey now =>
    if opId ∈ ledger.ops.rows.map CapsuleOpRow.opId then none
    else match request.refusal idempotencyKey with
      | some _ => some ledger
      | none =>
        let result := ledger.ops.beginCapsuleOp opId request.verb (request.fingerprint sha256)
          idempotencyKey now
        some ⟨result.2, ledger.calls ++ [⟨request, idempotencyKey, result.1⟩]⟩
  | .finish opId outcome now =>
      some { ledger with ops := ledger.ops.finishCapsuleOp opId outcome now }
  | .restart now => some { ledger with ops := ledger.ops.recoverCapsuleOps now }

variable {sha256 : List UInt8 → Digest} {streams : Set (List UInt8)} {start : CapsuleOps}
  {ledger after : Ledger} {label : OpLabel}

/-- What the steps keep of a row: its key and what it was reserved for, and everything once it is
settled. -/
def Kept (before after : CapsuleOps) : Prop :=
  ∀ row ∈ before.rows, ∃ later ∈ after.rows, later.idempotencyKey = row.idempotencyKey ∧
    later.kind = row.kind ∧ later.request = row.request ∧ (row.state ≠ .running → later = row)

/-- Every row has a fingerprint and a call or an older row behind it, and no older row's key is given
up; every call's key is reserved, by the call that started for what it asked for; every call is
answered, by a start exactly the first under an unbound key, and calls with one key alike. -/
structure Sound (sha256 : List UInt8 → Digest) (streams : Set (List UInt8)) (start : CapsuleOps)
    (ledger : Ledger) : Prop where
  fingerprinted : ∀ row ∈ ledger.ops.rows, row.request ≠ ""
  founded : ∀ row ∈ ledger.ops.rows, (∃ old ∈ start.rows, old.idempotencyKey = row.idempotencyKey) ∨
    ∃ call ∈ ledger.calls, call.idempotencyKey = row.idempotencyKey
  bound : ∀ old ∈ start.rows, ∃ row ∈ ledger.ops.rows, row.idempotencyKey = old.idempotencyKey
  within : ∀ call ∈ ledger.calls, call.request.Within streams
  reserved : ∀ call ∈ ledger.calls, ∃ row ∈ ledger.ops.rows,
    row.idempotencyKey = call.idempotencyKey ∧ (call.Started →
      row.kind = call.request.verb ∧ row.request = call.request.fingerprint sha256)
  answered : ∀ call ∈ ledger.calls, call.Answered
  opened : ∀ position call, ledger.calls[position]? = some call → (call.Started ↔
    (∀ earlier ∈ ledger.calls.take position, earlier.idempotencyKey ≠ call.idempotencyKey) ∧
    ∀ row ∈ start.rows, row.idempotencyKey ≠ call.idempotencyKey)
  alike : ledger.calls.Pairwise fun earlier later =>
    earlier.idempotencyKey = later.idempotencyKey → earlier.Answers later

theorem kept_update {ops : CapsuleOps} {matching : CapsuleOpRow → Bool}
    {set : CapsuleOpRow → CapsuleOpRow} {keeps}
    (running : ∀ row, matching row = true → row.state = .running)
    (same : ∀ row, (set row).idempotencyKey = row.idempotencyKey ∧ (set row).kind = row.kind ∧
      (set row).request = row.request) : Kept ops (ops.update matching set keeps) := by
  intro row member
  refine ⟨_, Table.mem_update.mpr ⟨row, member, rfl⟩, ?_⟩
  by_cases hit : matching row = true
  · simp only [hit, if_true]
    exact ⟨(same row).1, (same row).2.1, (same row).2.2, fun settled =>
      absurd (running row hit) settled⟩
  · simp [hit]

theorem kept_finish (ops : CapsuleOps) (opId : String)
    (outcome : Except (ErrorReason × String) String)
    (now : Int) : Kept ops (ops.finishCapsuleOp opId outcome now) := by
  refine kept_update (fun row hit => ?_) fun row => ?_
  · simp only [Bool.and_eq_true, decide_eq_true_eq] at hit
    exact hit.2
  · cases outcome <;> exact ⟨rfl, rfl, rfl⟩

theorem kept_recover (ops : CapsuleOps) (now : Int) : Kept ops (ops.recoverCapsuleOps now) :=
  kept_update (fun _ hit => of_decide_eq_true hit) fun _ => ⟨rfl, rfl, rfl⟩

theorem Sound.kept (sound : ledger.Sound sha256 streams start) {ops : CapsuleOps}
    (kept : Kept ledger.ops ops)
    (old : ∀ row ∈ ops.rows, ∃ before ∈ ledger.ops.rows,
      row.request = before.request ∧ row.idempotencyKey = before.idempotencyKey) :
    Sound sha256 streams start { ledger with ops := ops } where
  fingerprinted row member := by
    obtain ⟨before, beforeMember, same, -⟩ := old row member
    rw [same]
    exact sound.fingerprinted before beforeMember
  founded row member := by
    obtain ⟨before, beforeMember, -, key⟩ := old row member
    rw [key]
    exact sound.founded before beforeMember
  bound old member := by
    obtain ⟨row, rowMember, named⟩ := sound.bound old member
    obtain ⟨later, laterMember, key, -⟩ := kept row rowMember
    exact ⟨later, laterMember, key.trans named⟩
  within := sound.within
  reserved call member := by
    obtain ⟨row, rowMember, named, reserved⟩ := sound.reserved call member
    obtain ⟨later, laterMember, key, kind, request, -⟩ := kept row rowMember
    exact ⟨later, laterMember, key.trans named, fun started =>
      ⟨kind.trans (reserved started).1, request.trans (reserved started).2⟩⟩
  answered := sound.answered
  opened := sound.opened
  alike := sound.alike

theorem Sound.answers (sound : ledger.Sound sha256 streams start)
    (injective : Set.InjOn sha256 streams)
    {existing : CapsuleOpRow} (member : existing ∈ ledger.ops.rows) {call : Call}
    (named : existing.idempotencyKey = call.idempotencyKey) (within : call.request.Within streams)
    (answer : existing.kind = call.request.verb ∧
        existing.request = call.request.fingerprint sha256 ∧ call.answer = some (.replay existing) ∨
      ¬ (existing.kind = call.request.verb ∧ existing.request = call.request.fingerprint sha256) ∧
        call.answer = some (.mismatch existing)) {earlier : Call} (made : earlier ∈ ledger.calls)
    (same : earlier.idempotencyKey = call.idempotencyKey) : earlier.Answers call := by
  have told : earlier.Started →
      (existing.kind = call.request.verb ∧ existing.request = call.request.fingerprint sha256 ↔
        earlier.request.canonical = call.request.canonical) := by
    intro started
    obtain ⟨row, rowMember, key, reserved⟩ := sound.reserved earlier made
    have unique : CapsuleOpRow.idempotencyKey ∈
      [CapsuleOpRow.opId, CapsuleOpRow.idempotencyKey] := by
      simp
    have one : row = existing := Table.eq_of_column unique rowMember member
      ((key.trans same).trans named.symm)
    subst one
    rw [(reserved started).1, (reserved started).2]
    exact fingerprint_eq_iff injective (sound.within earlier made) within
  rcases answer with ⟨kind, request, answered⟩ | ⟨differs, answered⟩
  · refine ⟨by simp [Call.Started, answered], fun started => ?_, fun started => ?_⟩
    · simpa [Call.Replayed, answered] using (told started).mp ⟨kind, request⟩
    · simpa [Call.Mismatched, answered] using (told started).mp ⟨kind, request⟩
  · refine ⟨by simp [Call.Started, answered], fun started => ?_, fun started => ?_⟩
    · simpa [Call.Replayed, answered] using fun alike => differs ((told started).mpr alike)
    · simpa [Call.Mismatched, answered] using fun alike => differs ((told started).mpr alike)

theorem Sound.opened_snoc (sound : ledger.Sound sha256 streams start) {last : Call}
    (begins : last.Started ↔
      (∀ earlier ∈ ledger.calls, earlier.idempotencyKey ≠ last.idempotencyKey) ∧
        ∀ row ∈ start.rows, row.idempotencyKey ≠ last.idempotencyKey)
    {position : Nat} {call : Call} (made : (ledger.calls ++ [last])[position]? = some call) :
    call.Started ↔ (∀ earlier ∈ (ledger.calls ++ [last]).take position,
      earlier.idempotencyKey ≠ call.idempotencyKey) ∧
        ∀ row ∈ start.rows, row.idempotencyKey ≠ call.idempotencyKey := by
  rcases located_append made with old | ⟨rfl, rfl⟩
  · have short : position ≤ ledger.calls.length := (List.getElem?_eq_some_iff.mp old).1.le
    rw [List.take_append_of_le_length short]
    exact sound.opened position call old
  · rw [List.take_left]
    exact begins

theorem Sound.within_snoc (sound : ledger.Sound sha256 streams start) {last : Call}
    (within : last.request.Within streams) :
    ∀ call ∈ ledger.calls ++ [last], call.request.Within streams :=
  List.forall_mem_append.mpr ⟨sound.within, by simpa using within⟩

theorem Sound.founded_snoc (sound : ledger.Sound sha256 streams start) (last : Call) :
    ∀ row ∈ ledger.ops.rows, (∃ old ∈ start.rows, old.idempotencyKey = row.idempotencyKey) ∨
      ∃ call ∈ ledger.calls ++ [last], call.idempotencyKey = row.idempotencyKey := by
  intro row member
  refine (sound.founded row member).imp_right ?_
  rintro ⟨call, made, same⟩
  exact ⟨call, List.mem_append_left _ made, same⟩

/-- A call under a key that no row has. -/
theorem Sound.starts (sound : ledger.Sound sha256 streams start) {request : CapsuleRequest}
    {row : CapsuleOpRow} {ops : CapsuleOps} (within : request.Within streams)
    (kind : row.kind = request.verb) (asked : row.request = request.fingerprint sha256)
    (rows : ops.rows = ledger.ops.rows ++ [row])
    (unused : ∀ old ∈ ledger.ops.rows, old.idempotencyKey ≠ row.idempotencyKey) :
    Sound sha256 streams start
      ⟨ops, ledger.calls ++ [⟨request, row.idempotencyKey, some (.started row)⟩]⟩ := by
  have kept : ∀ row ∈ ledger.ops.rows, row ∈ ops.rows := fun old member =>
    rows ▸ List.mem_append_left _ member
  have first : ∀ earlier ∈ ledger.calls, earlier.idempotencyKey ≠ row.idempotencyKey := by
    intro earlier made same
    obtain ⟨other, otherMember, key, -⟩ := sound.reserved earlier made
    exact unused other otherMember (key.trans same)
  have unbound : ∀ old ∈ start.rows, old.idempotencyKey ≠ row.idempotencyKey := by
    intro old member same
    obtain ⟨other, otherMember, key⟩ := sound.bound old member
    exact unused other otherMember (key.trans same)
  refine ⟨?_, ?_, ?_, sound.within_snoc within, ?_, ?_, fun position call =>
    sound.opened_snoc (iff_of_true ⟨row, rfl⟩ ⟨first, unbound⟩), ?_⟩
  · intro other member
    rcases List.mem_append.mp (rows ▸ member) with old | new
    · exact sound.fingerprinted other old
    · rw [List.mem_singleton.mp new, asked]
      exact fingerprint_ne_empty sha256 request
  · intro other member
    rcases List.mem_append.mp (rows ▸ member) with old | new
    · exact sound.founded_snoc _ other old
    · rw [List.mem_singleton.mp new]
      exact .inr ⟨_, List.mem_append_right _ (List.mem_singleton_self _), rfl⟩
  · intro old member
    obtain ⟨other, otherMember, key⟩ := sound.bound old member
    exact ⟨other, kept other otherMember, key⟩
  · intro call member
    rcases List.mem_append.mp member with old | new
    · obtain ⟨other, otherMember, reserved⟩ := sound.reserved call old
      exact ⟨other, kept other otherMember, reserved⟩
    · rw [List.mem_singleton.mp new]
      exact ⟨row, rows ▸ List.mem_append_right _ (List.mem_singleton_self row), rfl,
        fun _ => ⟨kind, asked⟩⟩
  · refine List.forall_mem_append.mpr ⟨sound.answered, ?_⟩
    intro call member
    rw [List.mem_singleton.mp member]
    exact .inl ⟨row, rfl⟩
  · refine List.pairwise_append.mpr ⟨sound.alike, List.pairwise_singleton _ _, ?_⟩
    intro earlier made later new same
    rw [List.mem_singleton.mp new] at same
    exact absurd same (first earlier made)

/-- A call under a key that a row has. -/
theorem Sound.repeats (sound : ledger.Sound sha256 streams start)
    (injective : Set.InjOn sha256 streams) {existing : CapsuleOpRow}
    (member : existing ∈ ledger.ops.rows) {last : Call}
    (named : existing.idempotencyKey = last.idempotencyKey) (within : last.request.Within streams)
    (answer : existing.kind = last.request.verb ∧
        existing.request = last.request.fingerprint sha256 ∧ last.answer = some (.replay existing) ∨
      ¬ (existing.kind = last.request.verb ∧ existing.request = last.request.fingerprint sha256) ∧
        last.answer = some (.mismatch existing)) :
    Sound sha256 streams start { ledger with calls := ledger.calls ++ [last] } := by
  have unstarted : ¬ last.Started := by
    rintro ⟨row, same⟩
    rcases answer with ⟨-, -, answered⟩ | ⟨-, answered⟩ <;> cases answered.symm.trans same
  have taken : ¬ ((∀ earlier ∈ ledger.calls, earlier.idempotencyKey ≠ last.idempotencyKey) ∧
      ∀ old ∈ start.rows, old.idempotencyKey ≠ last.idempotencyKey) := by
    rintro ⟨first, unbound⟩
    rcases sound.founded existing member with ⟨old, inStart, key⟩ | ⟨earlier, made, key⟩
    · exact unbound old inStart (key.trans named)
    · exact first earlier made (key.trans named)
  refine ⟨sound.fingerprinted, sound.founded_snoc last, sound.bound, sound.within_snoc within,
    ?_, ?_, fun position call => sound.opened_snoc (iff_of_false unstarted taken), ?_⟩
  · intro call made
    rcases List.mem_append.mp made with old | new
    · exact sound.reserved call old
    · rw [List.mem_singleton.mp new]
      exact ⟨existing, member, named, fun started => absurd started unstarted⟩
  · refine List.forall_mem_append.mpr ⟨sound.answered, ?_⟩
    intro call new
    rw [List.mem_singleton.mp new]
    rcases answer with ⟨-, -, replayed⟩ | ⟨-, mismatched⟩
    · exact .inr (.inl ⟨existing, replayed⟩)
    · exact .inr (.inr ⟨existing, mismatched⟩)
  · refine List.pairwise_append.mpr ⟨sound.alike, List.pairwise_singleton _ _, ?_⟩
    intro earlier made later new same
    rw [List.mem_singleton.mp new] at same ⊢
    exact sound.answers injective member named within answer made same

theorem Sound.begins (sound : ledger.Sound sha256 streams start)
    (injective : Set.InjOn sha256 streams) {opId idempotencyKey : String} {request : CapsuleRequest}
    {now : Int} {answer : Option CapsuleOpBegin} {ops : CapsuleOps}
    (began : ledger.ops.beginCapsuleOp opId request.verb (request.fingerprint sha256) idempotencyKey
      now = (answer, ops))
    (fresh : opId ∉ ledger.ops.rows.map CapsuleOpRow.opId) (within : request.Within streams) :
    Sound sha256 streams start ⟨ops, ledger.calls ++ [⟨request, idempotencyKey, answer⟩]⟩ ∧
      ∀ row ∈ ledger.ops.rows, row ∈ ops.rows := by
  rcases CapsuleOps.beginCapsuleOp_cases began fresh sound.fingerprinted with
    ⟨row, rfl, rfl, kind, asked, rows, unused⟩ | ⟨existing, member, named, rfl, answered⟩
  · exact ⟨sound.starts within kind asked rows unused, fun old member =>
      rows ▸ List.mem_append_left _ member⟩
  · exact ⟨sound.repeats injective member named within answered, fun _ => id⟩

theorem old_update {ops : CapsuleOps} {matching : CapsuleOpRow → Bool}
    {set : CapsuleOpRow → CapsuleOpRow} {keeps}
    (same : ∀ row, (set row).request = row.request ∧ (set row).idempotencyKey =
      row.idempotencyKey) :
    ∀ row ∈ (ops.update matching set keeps).rows, ∃ before ∈ ops.rows,
      row.request = before.request ∧ row.idempotencyKey = before.idempotencyKey := by
  intro row member
  obtain ⟨before, beforeMember, rfl⟩ := Table.mem_update.mp member
  refine ⟨before, beforeMember, ?_⟩
  split
  · exact same before
  · exact ⟨rfl, rfl⟩

theorem Sound.next (sound : ledger.Sound sha256 streams start)
    (injective : Set.InjOn sha256 streams) (stepped : ledger.next sha256 label = some after)
    (within : label.Within streams) : after.Sound sha256 streams start ∧
      ∀ row ∈ ledger.ops.rows, row.state ≠ .running → row ∈ after.ops.rows := by
  have stays {ops : CapsuleOps} (kept : Kept ledger.ops ops) :
      ∀ row ∈ ledger.ops.rows, row.state ≠ .running → row ∈ ops.rows := by
    intro row member settled
    obtain ⟨later, laterMember, -, -, -, same⟩ := kept row member
    exact same settled ▸ laterMember
  cases label with
  | begin_ opId request idempotencyKey now =>
    simp only [Ledger.next] at stepped
    split at stepped
    · cases stepped
    · next fresh =>
        split at stepped
        · cases stepped
          exact ⟨sound, fun _ member _ => member⟩
        · cases stepped
          obtain ⟨begun, kept⟩ := sound.begins injective rfl fresh within
          exact ⟨begun, fun row member _ => kept row member⟩
  | finish opId outcome now =>
    cases stepped
    have kept := kept_finish ledger.ops opId outcome now
    exact ⟨sound.kept kept (old_update fun row => by cases outcome <;> exact ⟨rfl, rfl⟩),
      stays kept⟩
  | restart now =>
    cases stepped
    have kept := kept_recover ledger.ops now
    exact ⟨sound.kept kept (old_update fun _ => ⟨rfl, rfl⟩), stays kept⟩

/-- **Capsule operations are exactly once per key.** In every run over rows with fingerprints, under
a digest that tells the streams of the imported manifests apart: every call is a start, a replay or a
mismatch; the first call under a key that is not bound yet is a start, and no other is; after it every
call is a replay exactly when it asks for the same thing and a mismatch otherwise; and a row that is
done or failed stays as it is. -/
theorem capsule_ops_exactly_once {start : CapsuleOps} {labels : List OpLabel}
    (injective : Set.InjOn sha256 streams) (within : ∀ label ∈ labels, label.Within streams)
    (fingerprinted : ∀ row ∈ start.rows, row.request ≠ "")
    (reached : run (next sha256) ⟨start, []⟩ labels = some ledger) :
    (∀ call ∈ ledger.calls, call.Answered) ∧
    (∀ position call, ledger.calls[position]? = some call → (call.Started ↔
      (∀ earlier ∈ ledger.calls.take position, earlier.idempotencyKey ≠ call.idempotencyKey) ∧
      ∀ row ∈ start.rows, row.idempotencyKey ≠ call.idempotencyKey)) ∧
    (ledger.calls.Pairwise fun earlier later =>
      earlier.idempotencyKey = later.idempotencyKey → earlier.Answers later) ∧
    ∀ early late middle, labels = early ++ late →
      run (next sha256) ⟨start, []⟩ early = some middle →
      ∀ row ∈ middle.ops.rows, row.state = .done ∨ row.state = .failed → row ∈ ledger.ops.rows := by
  have initial : Sound sha256 streams start ⟨start, []⟩ :=
    ⟨fingerprinted, fun row member => .inl ⟨row, member, rfl⟩, fun old member => ⟨old, member, rfl⟩,
      by simp, by simp, by simp, by simp, List.Pairwise.nil⟩
  have along : Along (next sha256) (fun _ label _ => label.Within streams) ⟨start, []⟩ labels :=
    .of_labels fun label member {_ _} => within label member
  have step {ledger after : Ledger} {label : OpLabel} (sound : ledger.Sound sha256 streams start)
      (stepped : ledger.next sha256 label = some after) (brought : label.Within streams) :
      after.Sound sha256 streams start := (sound.next injective stepped brought).1
  have sound : ledger.Sound sha256 streams start := along.invariant step initial reached
  refine ⟨sound.answered, sound.opened, sound.alike, ?_⟩
  rintro early late middle rfl half row member settled
  obtain ⟨before, behind⟩ := along.append half
  rw [run_append, half] at reached
  have finished : row.state ≠ .running := by
    rcases settled with same | same <;> rw [same] <;> decide
  have kept : ledger.Sound sha256 streams start ∧ row ∈ ledger.ops.rows := by
    refine behind.invariant
      (I := fun ledger => ledger.Sound sha256 streams start ∧ row ∈ ledger.ops.rows)
      ?_ ⟨before.invariant (I := Sound sha256 streams start) step initial half, member⟩ reached
    rintro ledger label after ⟨sound, here⟩ stepped brought
    obtain ⟨next, stays⟩ := sound.next injective stepped brought
    exact ⟨next, stays row here finished⟩
  exact kept.2

/-- One key, reserved, asked for again, misused, settled, and asked for again after a restart. -/
def sampleLabels : List OpLabel :=
  [.begin_ "1" (.importCapsule sampleManifest 1) "k" 0,
    .begin_ "2" (.importCapsule sampleReordered 7) "k" 1,
    .begin_ "3" (.importCapsule sampleManifest 2) "k" 2,
    .finish "1" (.ok "c") 3, .restart 4, .begin_ "5" (.importCapsule sampleManifest 1) "k" 5]

theorem sampleLabels_answers : ∃ ledger first second third fourth,
    run (next checksum) ⟨.empty, []⟩ sampleLabels = some ledger ∧
      ledger.calls = [first, second, third, fourth] ∧ first.Started ∧ second.Replayed ∧
      third.Mismatched ∧ fourth.Replayed := by
  have ran : ((run (next checksum) ⟨.empty, []⟩ sampleLabels).any fun ledger =>
      ledger.calls.map (fun call => (call.request, call.idempotencyKey)) =
        [(.importCapsule sampleManifest 1, "k"), (.importCapsule sampleReordered 7, "k"),
          (.importCapsule sampleManifest 2, "k"), (.importCapsule sampleManifest 1, "k")]) =
          true := by
    decide +kernel
  obtain ⟨ledger, reached, made⟩ := exists_of_any ran
  simp only [List.map_eq_cons_iff, List.map_eq_nil_iff, Prod.mk.injEq] at made
  obtain ⟨first, _, calls, ⟨asked₁, key₁⟩, second, _, rfl, ⟨asked₂, key₂⟩, third, _, rfl,
    ⟨asked₃, key₃⟩, fourth, _, rfl, ⟨asked₄, key₄⟩, rfl⟩ := made
  have alike : sampleManifest.canonical = sampleReordered.canonical :=
    (CapsuleManifest.canonical_eq_iff rfl rfl).mpr
      ⟨rfl, rfl, rfl, rfl, rfl, rfl, rfl, rfl, (List.reverse_perm _).symm,
      (List.reverse_perm _).symm⟩
  have within : ∀ label ∈ sampleLabels, label.Within {sampleManifest.stream} := by
    simp [sampleLabels, OpLabel.Within, CapsuleRequest.Within,
      CapsuleManifest.stream_eq_iff.mpr alike.symm]
  obtain ⟨-, opened, answers, -⟩ :=
    capsule_ops_exactly_once (Set.injOn_singleton _ _) within (by simp) reached
  have started : first.Started := (opened 0 first (by rw [calls]; rfl)).mpr ⟨by simp, by simp⟩
  rw [calls, List.pairwise_cons] at answers
  have after (call : Call) (later : call ∈ [second, third, fourth])
    (key : call.idempotencyKey = "k") :
      first.Answers call := answers.1 call later (key₁.trans key.symm)
  refine ⟨ledger, first, second, third, fourth, reached, calls, started, ?_, ?_, ?_⟩
  · refine ((after second (by simp) key₂).replayed started).mpr ?_
    rw [asked₁, asked₂, CapsuleRequest.canonical, CapsuleRequest.canonical, alike]
    rfl
  · refine ((after third (by simp) key₃).mismatched started).mpr ?_
    rw [asked₁, asked₃]
    simp [CapsuleRequest.canonical, CapsuleStorage.ofRequest, CapsuleStorage.tryFrom]
  · refine ((after fourth (by simp) key₄).replayed started).mpr ?_
    rw [asked₁, asked₄]

end Ledger

end Barista.Capsule
