import Mathlib.Data.List.Basic
import Barista.Foundation.Fallible
import Barista.Capsule.Registry

/-!
Contract: the local, content-addressed store of immutable objects, and its durable tier.

Bytes are staged under a name of their own, measured as they land, and published by a rename under
the digest they were measured to have. The durable tier is a bucket that is believed only as far as
its bytes hash. Collection consults the journal first and unlinks afterwards.

Owns: the atomic actions of the capsule subsystem, the store's functions as programs over them, and
where a digest leads as a path. Does not own: what an action does, or the verbs that call the store.

A staging file is written and synced in one action: until then nobody reads it, and a crash leaves
what a file that is not synced leaves. Directory scans hand out their entries one by one. An error
under a context prints as the context; those of the sweeps, which only a log line shows, have none.
-/

namespace Barista.Capsule

open Foundation
open Node (ErrorReason SnapshotKind SnapshotRow)
open Prog (attempt mapError each)

/-! ### Atomic actions -/

/-- A staging file, by the task that created it and how far that task had come: names are made of
the clock and a counter, and no two are the same. -/
structure StagingName where
  task : Nat
  moment : Nat
deriving DecidableEq, Repr

structure SnapshotSource where
  instanceId : Text
  kind : SnapshotKind
  cpuClass : Text
  templateHash : Text
  runtimeBundleRef : Text
  createdAtMs : Int
deriving DecidableEq

structure SnapshotObject where
  type : CapsuleObjectType
  bytes : Vec UInt8
deriving DecidableEq

abbrev CapsuleError := ErrorReason × String

/-- Which of its two system calls an action has failed at. -/
inductive FailedAt where
  | first
  | second
deriving DecidableEq, Repr

inductive StoreAct where
  -- staging files
  | createStaging
  | fillStaging (name : StagingName) (bytes : Vec UInt8)
  | readStaging (name : StagingName)
  | removeStaging (name : StagingName)
  | publish (name : StagingName) (digest : Text)
  | nextStaging
  | sweepStaging (name : StagingName)
  -- committed objects
  | isObject (digest : Text)
  | readObject (digest : Text)
  | removeObject (digest : Text)
  | nextObject
  | sweepObject (digest : Text)
  -- the bucket
  | head (digest : Text)
  | put (digest : Text) (bytes : Vec UInt8)
  | get (digest : Text)
  | deleteRemote (digest : Text)
  -- the journal
  | getSnapshot (snapshotId : String)
  | getLineage (instanceId : Text)
  | getCapsule (capsuleId : Text)
  | registerCapsule (row : CapsuleRow)
  | insertSnapshot (row : SnapshotRow)
  | deleteCapsule (capsuleId : Text)
  | collectableObjects
  | finalizeObjectGc (digest : Text)
  | objectRef (digest : Text)
  -- the runtime, the clock, and the end of a boot
  | exportSnapshot (snapshotId : String)
  | now
  | serve

def StoreSig : Signature where
  Act := StoreAct
  Ans
    -- A file that cannot be created is told by the path it would have had.
    | .createStaging => Except String StagingName
    | .readStaging _ => Except String (Vec UInt8)
    | .fillStaging _ _ => Except FailedAt Unit
    | .removeStaging _ | .publish _ _ | .sweepStaging _ | .removeObject _
    | .sweepObject _ | .put _ _ | .deleteRemote _ | .insertSnapshot _ | .deleteCapsule _
    | .finalizeObjectGc _ => Except String Unit
    | .nextStaging => Except String (Option StagingName)
    | .nextObject => Except String (Option Text)
    | .isObject _ => Bool
    | .readObject _ => Except FailedAt (Option (Vec UInt8))
    | .get _ => Except String (Option (Vec UInt8))
    | .head _ => Except String Bool
    | .getSnapshot _ => Except String (Option SnapshotSource)
    | .getLineage _ => Option Text
    | .getCapsule _ => Except String (Option CapsuleRow)
    | .registerCapsule _ => Except String CapsuleRow
    | .collectableObjects => Except String (List Text)
    | .objectRef _ => Except String (Option ObjectRef)
    | .exportSnapshot _ => Except CapsuleError (Vec SnapshotObject)
    | .now => Int
    | .serve => Unit

abbrev StoreProg (α : Type) := Prog StoreSig α

def perform (act : StoreAct) : StoreProg (StoreSig.Ans act) :=
  Prog.perform (S := StoreSig) act

/-! ### Paths -/

/-- Whether a digest is a single path component that cannot leave its directory. -/
def isPathSafeDigest (digest : Text) : Bool :=
  digest.val ≠ "" && digest.val.toList.all (fun char => char ≠ '/' && char ≠ '\\' &&
    char ≠ '\x00') && digest.val ≠ "." && digest.val ≠ ".."

abbrev Path := List (List Char)

def Path.enter (path : Path) (component : List Char) : Path :=
  if component = [] ∨ component = ['.'] then path
  else if component = ['.', '.'] then path.dropLast
  else path ++ [component]

/-- Where a text leads from a directory; one that begins with a separator starts from the root. -/
def Path.join (path : Path) (text : List Char) : Path :=
  (text.splitOn '/').foldl Path.enter (if text.head? = some '/' then [] else path)

def objectPath (root : Path) (digest : Text) : Path :=
  Path.join (Path.join root "objects".toList) digest.val.toList

theorem Path.join_component {path : Path} {text : List Char} (unsplit : '/' ∉ text)
    (nonempty : text ≠ []) (here : text ≠ ['.']) (up : text ≠ ['.', '.']) :
    path.join text = path ++ [text] := by
  have inside : text.head? ≠ some '/' := fun starts => unsplit (List.mem_of_mem_head? starts)
  rw [Path.join, if_neg inside, List.splitOn_eq_singleton unsplit, List.foldl_cons, List.foldl_nil,
    Path.enter, if_neg (not_or.mpr ⟨nonempty, here⟩), if_neg up]

theorem objectPath_safe (root : Path) {digest : Text} (safe : isPathSafeDigest digest = true) :
    objectPath root digest = root ++ ["objects".toList, digest.val.toList] := by
  simp only [isPathSafeDigest, Bool.and_eq_true, decide_eq_true_eq, List.all_eq_true] at safe
  obtain ⟨⟨⟨nonempty, chars⟩, here⟩, up⟩ := safe
  have unsplit : '/' ∉ digest.val.toList := fun member => (chars '/' member).1.1 rfl
  have apart {text : String} (differs : digest.val ≠ text) : digest.val.toList ≠ text.toList :=
    fun same => differs (String.toList_injective same)
  have folder : Path.join root "objects".toList = root ++ ["objects".toList] :=
    Path.join_component (by decide) (by decide) (by decide) (by decide)
  rw [objectPath, folder, Path.join_component unsplit (apart nonempty) (apart here) (apart up),
    List.append_assoc]
  rfl

theorem isHexDigit_safe {char : Char} (digit : isHexDigit char = true) :
    char ≠ '/' ∧ char ≠ '\\' ∧ char ≠ '\x00' := by
  refine ⟨?_, ?_, ?_⟩ <;> rintro rfl <;> exact absurd digit (by decide)

theorem contentId_safe (digest : Digest) : isPathSafeDigest (contentId digest) = true := by
  have chars : (contentId digest).val.toList = "sha256:".toList ++ toLower digest.val := by
    have named : (contentId digest).val = "sha256:" ++ String.ofList (toLower digest.val) := rfl
    rw [named, String.toList_append]
    exact congrArg ("sha256:".toList ++ ·) String.toList_ofList
  have apart {text : String} (short : text.toList.length < 7) : (contentId digest).val ≠ text := by
    intro same
    have long := congrArg (fun text : String => text.toList.length) same
    rw [chars] at long
    simp only [List.length_append] at long
    have seven : "sha256:".toList.length = 7 := by decide
    omega
  simp only [isPathSafeDigest, Bool.and_eq_true, decide_eq_true_eq, List.all_eq_true]
  refine ⟨⟨⟨apart (by decide), fun char member => ?_⟩, apart (by decide)⟩, apart (by decide)⟩
  rw [chars] at member
  rcases List.mem_append.mp member with front | back
  · have plain : ("sha256:".toList.all fun char => char ≠ '/' && char ≠ '\\' && char ≠ '\x00') =
      true := by
      decide
    simpa using List.all_eq_true.mp plain char front
  · obtain ⟨slash, backslash, nul⟩ := isHexDigit_safe (toLower_digits char back).2
    exact ⟨⟨slash, backslash⟩, nul⟩

/-! ### The store -/

structure ObjectStore where
  sha256 : List UInt8 → Digest
  /-- The configured bucket's label, where there is one. -/
  remote : Option String

structure Staged where
  name : StagingName
  digest : Text
  length : UInt64
deriving DecidableEq

def byteLength (bytes : Vec UInt8) : UInt64 := .ofNat bytes.val.length

def withContext {ε α : Type} (message : String) (program : StoreProg (Except ε α)) :
    StoreProg (Except String α) :=
  mapError (fun _ => message) program

def FailedAt.context (first second : String) : FailedAt → String
  | .first => first
  | .second => second

namespace ObjectStore

variable (store : ObjectStore)

def stage (bytes : Vec UInt8) : StoreProg (Except String Staged) :=
  attempt (mapError (fun path => s!"create staging file {path}") (perform .createStaging))
    fun name =>
  attempt (mapError (FailedAt.context "write staging file" "fsync staging file")
    (perform (.fillStaging name bytes))) fun _ =>
  return .ok ⟨name, objectDigest store.sha256 bytes, byteLength bytes⟩

/-- Drop a staged blob that is not what it is claimed to be. -/
def refuse (staged : Staged) (message : String) : StoreProg (Except String Unit) := do
  let _ ← perform (.removeStaging staged.name)
  return .error message

def digestMismatch (staged : Staged) (expectedDigest : Text) : String :=
  s!"object digest mismatch: manifest claims {expectedDigest.val}, " ++
    s!"bytes hash to {staged.digest.val}"

def lengthMismatch (staged : Staged) (expectedDigest : Text) (expectedLength : UInt64) : String :=
  s!"object length mismatch for {expectedDigest.val}: manifest claims {expectedLength}, " ++
    s!"staged {staged.length} bytes"

/-- Publish a staged blob. One whose object is there already is dropped. -/
def commit (staged : Staged) (expectedDigest : Text) (expectedLength : UInt64) :
    StoreProg (Except String Unit) :=
  if staged.digest ≠ expectedDigest then refuse staged (digestMismatch staged expectedDigest)
  else if staged.length ≠ expectedLength then
    refuse staged (lengthMismatch staged expectedDigest expectedLength)
  else do
    let present : Bool ← perform (.isObject expectedDigest)
    if present then do
      let _ ← perform (.removeStaging staged.name)
      return .ok ()
    else
      withContext s!"publish object {expectedDigest.val}"
        (perform (.publish staged.name expectedDigest))

def upload (label : String) (staged : Staged) (digest : Text) : StoreProg (Except String Unit) :=
  attempt (withContext s!"check object {digest.val} in {label}" (perform (.head digest)))
    fun contained =>
  if contained then return .ok ()
  else
    attempt (withContext s!"read staged object {digest.val}"
      (perform (.readStaging staged.name))) fun bytes =>
    withContext s!"upload object {digest.val} to {label}" (perform (.put digest bytes))

/-- Publish a staged blob to the durable tier, and prove that it landed by reading it back. -/
def commitRemote (staged : Staged) (expectedDigest : Text) (expectedLength : UInt64) :
    StoreProg (Except String Unit) :=
  match store.remote with
  | none =>
    return .error "no object-store tier is configured on this node (set the capsule bucket URL)"
  | some label =>
    if staged.digest ≠ expectedDigest then refuse staged (digestMismatch staged expectedDigest)
    else if staged.length ≠ expectedLength then
      refuse staged (lengthMismatch staged expectedDigest expectedLength)
    else
      attempt (upload label staged expectedDigest) fun _ =>
      attempt (withContext s!"read back object {expectedDigest.val}"
        (perform (.get expectedDigest))) fun roundTripped =>
      match roundTripped with
      | none => return .error s!"read back object {expectedDigest.val}"
      | some bytes =>
        let actual := objectDigest store.sha256 bytes
        if actual ≠ expectedDigest ∨ byteLength bytes ≠ expectedLength then do
          let _ ← perform (.deleteRemote expectedDigest)
          refuse staged (s!"object {expectedDigest.val} in {label} failed durable " ++
            s!"verification: it reads back as {actual.val} with {bytes.val.length} bytes, " ++
            s!"expected {expectedLength}")
        else do
          let _ ← perform (.removeStaging staged.name)
          return .ok ()

/-- An object's bytes from the bucket, re-hashed before they count, and cached locally. -/
def fetchRemoteVerified (digest : Text) : StoreProg (Except String (Option (Vec UInt8))) :=
  match store.remote with
  | none => return .ok none
  | some label =>
    attempt (withContext s!"download object {digest.val} from {label}"
      (perform (.get digest))) fun downloaded =>
    match downloaded with
    | none => return .ok none
    | some bytes =>
      let actual := objectDigest store.sha256 bytes
      if actual ≠ digest then
        return .error s!"object {digest.val} in {label} is corrupt: its bytes hash to {actual.val}"
      else
        attempt (store.stage bytes) fun staged =>
        attempt (commit staged digest (byteLength bytes)) fun _ =>
        return .ok (some bytes)

def readVerified (digest : Text) : StoreProg (Except String (Option (Vec UInt8))) :=
  if !isPathSafeDigest digest then
    return .error s!"refusing to open object with unsafe digest \"{digest.val}\""
  else
    attempt (mapError (FailedAt.context s!"open object {digest.val}" s!"read object {digest.val}")
      (perform (.readObject digest))) fun read =>
    match read with
    | none => return .ok none
    | some bytes =>
      let actual := objectDigest store.sha256 bytes
      if actual ≠ digest then
        return .error s!"object {digest.val} is corrupt on disk: bytes now hash to {actual.val}"
      else return .ok (some bytes)

def fetch (digest : Text) : StoreProg (Except String (Option (Vec UInt8))) :=
  attempt (store.readVerified digest) fun read =>
  match read with
  | some bytes => return .ok (some bytes)
  | none => store.fetchRemoteVerified digest

def remove (digest : Text) : StoreProg (Except String Unit) :=
  if !isPathSafeDigest digest then
    return .error s!"refusing to remove object with unsafe digest \"{digest.val}\""
  else withContext s!"remove object {digest.val}" (perform (.removeObject digest))

/-- Unlink the committed objects the journal has no row for, over at most `scan` entries. -/
def sweepUntrackedLocal : (scan swept : Nat) → StoreProg (Except String Nat)
  | 0, swept => return .ok swept
  | scan + 1, swept =>
    attempt (perform .nextObject) fun entry =>
    match entry with
    | none => return .ok swept
    | some digest =>
      attempt (perform (.objectRef digest)) fun ref =>
      match ref with
      | some _ => sweepUntrackedLocal scan swept
      | none =>
        attempt (perform (.sweepObject digest)) fun _ =>
        sweepUntrackedLocal scan (swept + 1)

def sweepStagingDir : (scan swept : Nat) → StoreProg (Except String Nat)
  | 0, swept => return .ok swept
  | scan + 1, swept =>
    attempt (perform .nextStaging) fun entry =>
    match entry with
    | none => return .ok swept
    | some name =>
      attempt (perform (.sweepStaging name)) fun _ =>
      sweepStagingDir scan (swept + 1)

def collect : List Text → (collected : Nat) → StoreProg (Except String Nat)
  | [], collected => return .ok collected
  | digest :: rest, collected =>
    attempt (remove digest) fun _ =>
    attempt (perform (.finalizeObjectGc digest)) fun _ =>
    collect rest (collected + 1)

/-- Sweep the staging files, then collect what the journal lets go. -/
def runGc (scan : Nat) : StoreProg (Except String (Nat × Nat)) :=
  attempt (sweepStagingDir scan 0) fun swept =>
  attempt (perform .collectableObjects) fun digests =>
  attempt (collect digests 0) fun collected =>
  return .ok (swept, collected)

/-- At boot, when nothing else runs, objects without a row go first. -/
def runStartupGc (scan : Nat) : StoreProg (Except String (Nat × Nat × Nat)) :=
  attempt (sweepUntrackedLocal scan 0) fun untracked =>
  attempt (runGc scan) fun result =>
  return .ok (result.1, untracked, result.2)

end ObjectStore

end Barista.Capsule
