import Mathlib.Data.List.DropRight
import Mathlib.Tactic.Common

/-!
Contract: the bytes the guest agent takes in and gives out, in bounded pieces.

A command's output is kept as a tail: `push` skips the part of a write that could never be kept, then pops
what older bytes no longer fit. A file is read in chunks: each read asks for what the buffer and the
remaining budget allow, and may return less.

Owns: `Tail`, the loop of `read_file`, that the tail of a stream is its last bytes and a count of the others,
and that the chunks of a read are the requested range. Does not own: what a command prints, or how a read's
length is chosen.
-/

namespace Barista.Guest

/-! ### The diagnostic tail -/

def TAIL_LIMIT : Nat := 4096

/-- The last bytes of a stream, and how many came before them. -/
structure Tail where
  kept : List UInt8
  dropped : UInt64
deriving DecidableEq, Repr

namespace Tail

def new : Tail := ⟨[], 0⟩

def popExcess : List UInt8 → UInt64 → Tail
  | [], dropped => ⟨[], dropped⟩
  | oldest :: kept, dropped =>
    if TAIL_LIMIT < (oldest :: kept).length then popExcess kept (dropped + 1)
    else ⟨oldest :: kept, dropped⟩

def push (tail : Tail) (bytes : List UInt8) : Tail :=
  let keep := min bytes.length TAIL_LIMIT
  popExcess (tail.kept ++ bytes.drop (bytes.length - keep)) 
    (tail.dropped + .ofNat (bytes.length - keep))

theorem popExcess_eq (kept : List UInt8) (dropped : UInt64) : popExcess kept dropped =
      ⟨kept.drop (kept.length - TAIL_LIMIT), dropped + .ofNat (kept.length - TAIL_LIMIT)⟩ := by
  induction kept generalizing dropped with
  | nil => simp [popExcess]
  | cons oldest kept ih =>
    rw [popExcess]
    split
    case isTrue long =>
      have excess : (oldest :: kept).length - TAIL_LIMIT = kept.length - TAIL_LIMIT + 1 := by
        simp only [List.length_cons] at long ⊢
        omega
      rw [ih, excess, List.drop_succ_cons, UInt64.add_assoc, Nat.add_comm, UInt64.ofNat_add]
      rfl
    case isFalse short =>
      rw [Nat.sub_eq_zero_of_le (Nat.le_of_not_lt short)]
      exact congrArg (Tail.mk _) (UInt64.add_zero dropped).symm

/-- What a tail is after a stream: its last bytes, and the number of the others. -/
def Holds (tail : Tail) (stream : List UInt8) : Prop :=
  tail.kept = stream.drop (stream.length - TAIL_LIMIT) ∧
    tail.dropped = .ofNat (stream.length - TAIL_LIMIT)

theorem Holds.push {tail : Tail} {stream : List UInt8} (holds : tail.Holds stream)
    (bytes : List UInt8) : (tail.push bytes).Holds (stream ++ bytes) := by
  obtain ⟨kept, dropped⟩ := holds
  have skipped : bytes.length - min bytes.length TAIL_LIMIT = bytes.length - TAIL_LIMIT := by omega
  simp only [Tail.push, popExcess_eq, Holds, kept, dropped, skipped, List.length_append,
    List.length_drop]
  constructor
  · -- Either the new bytes alone fill the tail, or nothing of them was skipped.
    by_cases full : TAIL_LIMIT ≤ bytes.length
    · have past : stream.length ≤ stream.length + bytes.length - TAIL_LIMIT := by omega
      have rest : stream.length - (stream.length - TAIL_LIMIT) + (bytes.length - (bytes.length - TAIL_LIMIT)) -
          TAIL_LIMIT - (stream.length - (stream.length - TAIL_LIMIT)) + (bytes.length - TAIL_LIMIT) =
          stream.length + bytes.length - TAIL_LIMIT - stream.length := by omega
      rw [List.drop_append, List.drop_append, List.drop_eq_nil_of_le past,
        List.drop_eq_nil_of_le (by rw [List.length_drop]; omega), List.drop_drop, List.length_drop,
        ← rest, Nat.add_comm]
    · have whole : bytes.length - TAIL_LIMIT = 0 := by omega
      have older : stream.length - TAIL_LIMIT + (stream.length - (stream.length - TAIL_LIMIT) + bytes.length -
          TAIL_LIMIT) = stream.length + bytes.length - TAIL_LIMIT := by omega
      rw [whole, List.drop_zero, Nat.sub_zero, ← List.drop_append_of_le_length (Nat.sub_le ..),
        List.drop_drop, older]
  · rw [← UInt64.ofNat_add, ← UInt64.ofNat_add]
    refine congrArg UInt64.ofNat ?_
    omega

end Tail

/-- **The diagnostic tail is exact**, and what it dropped is counted, in 64 bits. -/
theorem tail_keeps_last_bytes (chunks : List (List UInt8)) :
    let stream := chunks.flatten
    let tail := chunks.foldl Tail.push .new
    tail.kept = stream.drop (stream.length - min stream.length TAIL_LIMIT) ∧
      tail.kept.length = min stream.length TAIL_LIMIT ∧
      tail.dropped = .ofNat (stream.length - tail.kept.length) ∧
      ∀ pushes, ((chunks.take pushes).foldl Tail.push .new).kept.length ≤ TAIL_LIMIT := by
  have holds : ∀ chunks : List (List UInt8), (chunks.foldl Tail.push .new).Holds
    chunks.flatten := by
    intro chunks
    induction chunks using List.reverseRecOn with
    | nil => exact ⟨rfl, rfl⟩
    | append_singleton chunks bytes ih =>
      rw [List.foldl_concat, List.flatten_concat]
      exact ih.push bytes
  have count : ∀ chunks : List (List UInt8),
      (chunks.foldl Tail.push .new).kept.length = min chunks.flatten.length TAIL_LIMIT := by
    intro chunks
    rw [(holds chunks).1, List.length_drop]
    omega
  intro stream tail
  obtain ⟨kept, dropped⟩ : tail.Holds stream := holds chunks
  refine ⟨?_, count chunks, ?_, fun pushes => ?_⟩
  · have least : stream.length - TAIL_LIMIT = stream.length - min stream.length TAIL_LIMIT := by
      omega
    rw [kept, least]
  · rw [dropped, show tail.kept.length = min stream.length TAIL_LIMIT from count chunks]
    refine congrArg UInt64.ofNat ?_
    omega
  · rw [count]
    omega

/-! ### Reading a file -/

def FILE_CHUNK : Nat := 64 * 1024

structure FileChunk where
  data : List UInt8
  eof : Bool
deriving DecidableEq, Repr

inductive Answer where
  | bytes (count : Nat)
  | failed (message : String)
deriving DecidableEq, Repr

/-- How the file system answers the call's reads, and whether the receiver takes the chunks. -/
structure Schedule where
  seeks : Except String Unit
  answer : Nat → Answer
  taken : Nat → Bool

/-- A read returns nothing only where there is no room for a byte or none left to read. -/
def granted (count room : Nat) : Nat := if room = 0 then 0 else max 1 (min count room)

theorem granted_le (count room : Nat) : granted count room ≤ room := by
  unfold granted
  split <;> omega

theorem granted_eq_zero {count room : Nat} : granted count room = 0 ↔ room = 0 := by
  unfold granted
  split <;> omega

/-- How much the next read asks for; no limit is written as zero. -/
def want (limit sent : UInt64) : Nat :=
  if limit = 0 then FILE_CHUNK else min (limit - sent).toNat FILE_CHUNK

/-- The loop of `read_file` after `turn` reads, with what the file still has to give. -/
def readLoop (limit : UInt64) (schedule : Schedule) (rest : List UInt8) (sent : UInt64)
    (turn : Nat) : List (Except String FileChunk) :=
  if want limit sent = 0 then [.ok ⟨[], true⟩]
  else match schedule.answer turn with
    | .failed message => [.error message]
    | .bytes count =>
      let read := granted count (min (want limit sent) rest.length)
      if read = 0 then [.ok ⟨[], true⟩]
      else if schedule.taken turn then
        .ok ⟨rest.take read, false⟩ ::
          readLoop limit schedule (rest.drop read) (sent + UInt64.ofNat read) (turn + 1)
      else []
termination_by rest.length
decreasing_by
  have room := granted_le count (min (want limit sent) rest.length)
  simp only [List.length_drop]
  omega

/-- `read_file` over an opened file: the items of the response, unless it fails before there is one. -/
def readFile (content : List UInt8) (offset limit : UInt64) (schedule : Schedule) :
    Except String (List (Except String FileChunk)) := do
  if 0 < offset then schedule.seeks
  return readLoop limit schedule (content.drop offset.toNat) 0 0

/-- What a call asks for of the bytes from its offset on, when `sent` of them have been served. -/
def requested (limit : UInt64) (sent : Nat) (rest : List UInt8) : List UInt8 :=
  if limit = 0 then rest else rest.take (limit.toNat - sent)

/-- Data chunks, then one empty chunk that says the end. -/
def Serves (range : List UInt8) (items : List (Except String FileChunk)) : Prop :=
  ∃ pieces : List (List UInt8), items = pieces.map (.ok ⟨·, false⟩) ++ [.ok ⟨[], true⟩] ∧
    pieces.flatten = range ∧ ∀ piece ∈ pieces, piece ≠ [] ∧ piece.length ≤ FILE_CHUNK

theorem Serves.cons {range piece : List UInt8} {items : List (Except String FileChunk)}
    (serves : Serves range items) (nonempty : piece ≠ []) (bounded : piece.length ≤ FILE_CHUNK) :
    Serves (piece ++ range) (.ok ⟨piece, false⟩ :: items) := by
  obtain ⟨pieces, rfl, rfl, each⟩ := serves
  exact ⟨piece :: pieces, rfl, rfl, List.forall_mem_cons.mpr ⟨⟨nonempty, bounded⟩, each⟩⟩

theorem serves_nil : Serves [] [.ok ⟨[], true⟩] := ⟨[], rfl, rfl, nofun⟩

theorem requested_step {limit : UInt64} {sent read : Nat} (rest : List UInt8)
    (within : limit = 0 ∨ sent + read ≤ limit.toNat) :
    requested limit sent rest = rest.take read ++ requested limit (sent + read)
    (rest.drop read) := by
  unfold requested
  split
  case isTrue => rw [List.take_append_drop]
  case isFalse limited =>
    have left : limit.toNat - sent = read + (limit.toNat - (sent + read)) := by
      have fits := within.resolve_left limited
      omega
    rw [left, List.take_add]

theorem sent_after_read {limit sent : UInt64} {read : Nat} (limited : limit ≠ 0)
    (below : sent ≤ limit) (wanted : read ≤ want limit sent) :
    (sent + UInt64.ofNat read).toNat = sent.toNat + read ∧ sent.toNat + read ≤ limit.toNat := by
  rw [want, if_neg limited, UInt64.toNat_sub_of_le _ _ below] at wanted
  have order : sent.toNat ≤ limit.toNat := below
  have size := limit.toNat_lt
  have fits : read < 2 ^ 64 := by omega
  rw [UInt64.toNat_add, UInt64.toNat_ofNat_of_lt' fits, Nat.mod_eq_of_lt (by omega)]
  omega

theorem readLoop_serves (limit : UInt64) {schedule : Schedule} (rest : List UInt8) (sent : UInt64)
    (turn : Nat) (answers : ∀ turn message, schedule.answer turn ≠ .failed message)
    (stays : ∀ turn, schedule.taken turn = true) (budget : limit = 0 ∨ sent ≤ limit) :
    Serves (requested limit sent.toNat rest) (readLoop limit schedule rest sent turn) := by
  fun_induction readLoop limit schedule rest sent turn with
  | case1 rest sent turn exhausted =>
    have limited : limit ≠ 0 := by
      rintro rfl
      exact absurd exhausted (by simp [want, FILE_CHUNK])
    have spent : limit.toNat - sent.toNat = 0 := by
      rw [want, if_neg limited, UInt64.toNat_sub_of_le _ _ (budget.resolve_left limited),
        FILE_CHUNK] at exhausted
      omega
    rw [requested, if_neg limited, spent, List.take_zero]
    exact serves_nil
  | case2 rest sent turn wanted message failed => exact absurd failed (answers _ _)
  | case3 rest sent turn wanted count answered read nothing =>
    have atEnd : rest = [] := by
      have room := granted_eq_zero.mp nothing
      exact List.length_eq_zero_iff.mp (by omega)
    rw [atEnd, requested, List.take_nil, ite_self]
    exact serves_nil
  | case4 rest sent turn wanted count answered read something taken ih =>
    have room : read ≤ min (want limit sent) rest.length := granted_le ..
    have length : (rest.take read).length = read := by
      rw [List.length_take]
      omega
    have bounded : want limit sent ≤ FILE_CHUNK := by
      unfold want
      split <;> omega
    have nonempty : rest.take read ≠ [] := by
      rw [← List.length_pos_iff, length]
      omega
    by_cases unlimited : limit = 0
    · rw [requested_step rest (.inl unlimited)]
      simp only [requested, if_pos unlimited] at ih ⊢
      exact (ih (.inl unlimited)).cons nonempty (by omega)
    · obtain ⟨counted, within⟩ :=
        sent_after_read unlimited (budget.resolve_left unlimited) (room.trans (min_le_left ..))
      rw [requested_step rest (.inr within), ← counted]
      have below : sent + UInt64.ofNat read ≤ limit := by
        rw [UInt64.le_iff_toNat_le, counted]
        exact within
      exact (ih (.inr below)).cons nonempty (by omega)
  | case5 rest sent turn wanted count answered read something lost => exact absurd (stays turn) lost

/-- **A read serves exactly the requested range.** -/
theorem read_file_serves_range (content : List UInt8) (offset limit : UInt64) (schedule : Schedule)
    (seeks : 0 < offset → schedule.seeks = .ok ())
    (answers : ∀ turn message, schedule.answer turn ≠ .failed message)
    (stays : ∀ turn, schedule.taken turn = true) : ∃ pieces : List (List UInt8),
      readFile content offset limit schedule = .ok
        (pieces.map (.ok ⟨·, false⟩) ++ [.ok ⟨[], true⟩]) ∧
      pieces.flatten = (if limit = 0 then content.drop offset.toNat
        else (content.drop offset.toNat).take limit.toNat) ∧
      ∀ piece ∈ pieces, piece ≠ [] ∧ piece.length ≤ FILE_CHUNK := by
  obtain ⟨pieces, served, range, each⟩ :=
    readLoop_serves limit (content.drop offset.toNat) 0 0 answers stays (.inr (Nat.zero_le _))
  refine ⟨pieces, ?_, range, each⟩
  have opened : readFile content offset limit schedule =
      .ok (readLoop limit schedule (content.drop offset.toNat) 0 0) := by
    unfold readFile
    split
    case isTrue skips => rw [seeks skips]; rfl
    case isFalse => rfl
  rw [opened, served]

/-- Three bytes from the second on, in reads of at most two. -/
theorem read_file_three_bytes : ∃ pieces : List (List UInt8),
    readFile [7, 8, 9, 10, 11] 1 3 ⟨.ok (), fun _ => .bytes 2, fun _ => true⟩ =
      .ok (pieces.map (.ok ⟨·, false⟩) ++ [.ok ⟨[], true⟩]) ∧ pieces.flatten = [8, 9, 10] := by
  obtain ⟨pieces, served, range, -⟩ := read_file_serves_range [7, 8, 9, 10, 11] 1 3
    ⟨.ok (), fun _ => .bytes 2, fun _ => true⟩ (fun _ => rfl) nofun (fun _ => rfl)
  exact ⟨pieces, served, range⟩

end Barista.Guest
