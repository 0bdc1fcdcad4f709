import Barista.Foundation.Program
import Mathlib.Logic.Function.Basic

/-!
Contract: an object store with conditional writes, as a machine.

Every object is a `Cell`: the log of the puts the store applied to it, newest
first, each with the version the store issued for it. A put is applied when its
condition holds at the moment it reaches the store. Which versions the store may
issue is a parameter, so that always-fresh versions and content-derived ones are
two instances of one machine.

Owns: codecs, cells, put conditions, versioning schemes, the delivery of one request
(answered, lost on the way back, or never arrived), and the inversion of each
request.
-/

namespace Barista.Foundation

/-- An encoding of records as object bodies that reads back what it wrote. -/
structure Codec (Value Body : Type) where
  encode : Value → Body
  decode : Body → Option Value
  decode_encode : ∀ value, decode (encode value) = some value

attribute [simp] Codec.decode_encode

theorem Codec.encode_injective {Value Body : Type} (codec : Codec Value Body) :
    Function.Injective codec.encode := by
  intro left right same
  have decoded := congrArg codec.decode same
  simpa using decoded

/-- Bodies kept as the records themselves, for layers that never look at bytes. -/
def Codec.structural (Value : Type) : Codec Value Value where
  encode := id
  decode := some
  decode_encode _ := rfl

structure Entry (Body Version : Type) where
  body : Body
  version : Version
deriving DecidableEq, Repr

inductive PutMode (Version : Type) where
  | create
  | update (version : Version)
deriving DecidableEq, Repr

/-- One object of the store: every put applied to it, newest first. -/
structure Cell (Body Version : Type) where
  log : List (Entry Body Version)
deriving DecidableEq, Repr

/-- Which version the store may issue for a body written to a cell. -/
abbrev Versioning (Body Version : Type) := Cell Body Version → Body → Version → Bool

section Cells

variable {Body Version : Type}

namespace Cell

def current (cell : Cell Body Version) : Option (Entry Body Version) :=
  cell.log.head?

def write (cell : Cell Body Version) (entry : Entry Body Version) : Cell Body Version :=
  ⟨entry :: cell.log⟩

/-- A version names at most one body in the history of the cell. -/
def VersionsIdentify (cell : Cell Body Version) : Prop :=
  ∀ first ∈ cell.log, ∀ second ∈ cell.log,
    first.version = second.version → first.body = second.body

/-- Every put of the log was issued the version of its content. -/
def Tagged (tag : Body → Version) (cell : Cell Body Version) : Prop :=
  ∀ entry ∈ cell.log, entry.version = tag entry.body

@[simp] theorem write_log (cell : Cell Body Version) (entry : Entry Body Version) :
    (cell.write entry).log = entry :: cell.log := rfl

@[simp] theorem write_current (cell : Cell Body Version) (entry : Entry Body Version) :
    (cell.write entry).current = some entry := rfl

variable {cell : Cell Body Version}

theorem current_mem {entry : Entry Body Version} (found : cell.current = some entry) :
    entry ∈ cell.log :=
  List.mem_of_head? found

theorem Tagged.versionsIdentify {tag : Body → Version} (tagged : cell.Tagged tag)
    (injective : Function.Injective tag) : cell.VersionsIdentify := by
  intro first firstMem second secondMem sameVersion
  rw [tagged first firstMem, tagged second secondMem] at sameVersion
  exact injective sameVersion

variable [DecidableEq Version]

def admits (cell : Cell Body Version) : PutMode Version → Bool
  | .create => cell.current.isNone
  | .update version => cell.current.any fun entry => entry.version == version

theorem admits_create_iff : cell.admits .create = true ↔ cell.log = [] := by
  simp [admits, current]

theorem admits_update_iff {version : Version} : cell.admits (.update version) = true ↔
      ∃ entry, cell.current = some entry ∧ entry.version = version := by
  simp [admits, Option.any_eq_true]

/-- **A conditional write builds on what it read.** Where versions identify bodies, a put
conditioned on the version of any earlier entry finds that entry's body stored. -/
theorem VersionsIdentify.base_current {base : Entry Body Version} (identify : cell.VersionsIdentify)
    (known : base ∈ cell.log) (admitted : cell.admits (.update base.version) = true) :
    ∃ entry, cell.current = some entry ∧ entry.body = base.body := by
  obtain ⟨entry, found, sameVersion⟩ := admits_update_iff.mp admitted
  exact ⟨entry, found, identify entry (current_mem found) base known sameVersion⟩

end Cell

variable [DecidableEq Version]

/-- The store never issues a version of an object twice. -/
def freshVersions : Versioning Body Version :=
  fun cell _ version => cell.log.all fun entry => entry.version != version

/-- The version is computed from the stored body alone. -/
def contentVersions (tag : Body → Version) : Versioning Body Version :=
  fun _ body version => version == tag body

theorem Cell.VersionsIdentify.write_fresh {cell : Cell Body Version} {body : Body}
    {version : Version} (identify : cell.VersionsIdentify)
    (issued : freshVersions cell body version = true) :
    (cell.write ⟨body, version⟩).VersionsIdentify := by
  have fresh : ∀ entry ∈ cell.log, entry.version ≠ version := by
    simpa [freshVersions] using issued
  intro first firstMem second secondMem sameVersion
  simp only [Cell.write_log, List.mem_cons] at firstMem secondMem
  rcases firstMem with rfl | firstMem <;> rcases secondMem with rfl | secondMem
  · rfl
  · exact absurd sameVersion.symm (fresh second secondMem)
  · exact absurd sameVersion (fresh first firstMem)
  · exact identify first firstMem second secondMem sameVersion

theorem Cell.Tagged.write {tag : Body → Version} {cell : Cell Body Version} {body : Body}
    {version : Version} (tagged : cell.Tagged tag)
    (issued : contentVersions tag cell body version = true) :
    (cell.write ⟨body, version⟩).Tagged tag := by
  have content : version = tag body := by simpa [contentVersions] using issued
  intro entry entryMem
  rcases List.mem_cons.mp entryMem with rfl | older
  · exact content
  · exact tagged entry older

/-- A versioning scheme under which versions identify bodies, by way of an invariant `Ok`
of the cells it governs. -/
structure Versioning.Sound (etags : Versioning Body Version)
    (Ok : Cell Body Version → Prop) : Prop where
  empty : Ok ⟨[]⟩
  write : ∀ {cell body version}, Ok cell → etags cell body version = true →
    Ok (cell.write ⟨body, version⟩)
  identify : ∀ {cell}, Ok cell → cell.VersionsIdentify

theorem freshVersions_sound :
    (freshVersions : Versioning Body Version).Sound Cell.VersionsIdentify where
  empty := by simp [Cell.VersionsIdentify]
  write := Cell.VersionsIdentify.write_fresh
  identify := id

theorem contentVersions_sound {tag : Body → Version} (injective : Function.Injective tag) :
    (contentVersions tag).Sound (Cell.Tagged tag) where
  empty := by simp [Cell.Tagged]
  write := Cell.Tagged.write
  identify := fun tagged => tagged.versionsIdentify injective

end Cells

/-! ### The store as a machine -/

inductive StoreError where
  | notFound
  | alreadyExists
  | precondition
  | unavailable
deriving DecidableEq, Repr

inductive StoreAct (Key Body Version : Type) where
  | get (key : Key)
  | put (key : Key) (body : Body) (mode : PutMode Version)
deriving DecidableEq, Repr

def StoreSig (Key Body Version : Type) : Signature where
  Act := StoreAct Key Body Version
  Ans
    | .get _ => Except StoreError (Entry Body Version)
    | .put _ _ _ => Except StoreError Version

/-- What became of one request. `version` is what the store issues if it applies a put. -/
inductive Delivery (Version : Type) where
  /-- The request arrived and its answer came back. -/
  | answered (version : Version)
  /-- The request arrived; its answer did not come back. -/
  | lost (version : Version)
  /-- The request never arrived. -/
  | failed
deriving DecidableEq, Repr

abbrev Objects (Key Body Version : Type) := Key → Cell Body Version

section Machine

variable {Key Body Version : Type} [DecidableEq Key] [DecidableEq Version]

def PutMode.refusal : PutMode Version → StoreError
  | .create => .alreadyExists
  | .update _ => .precondition

/-- Apply one put that reached the store, if its condition holds. -/
def Objects.apply (etags : Versioning Body Version) (objects : Objects Key Body Version)
    (key : Key) (body : Body) (mode : PutMode Version) (version : Version) :
    Option (Except StoreError Version × Objects Key Body Version) :=
  if (objects key).admits mode then
    if etags (objects key) body version then
      some (.ok version, Function.update objects key ((objects key).write ⟨body, version⟩))
    else none
  else some (.error mode.refusal, objects)

def Objects.exec (etags : Versioning Body Version) :
    (act : StoreAct Key Body Version) → Delivery Version → Objects Key Body Version →
      Option ((StoreSig Key Body Version).Ans act × Objects Key Body Version)
  | .get key, .answered _, objects =>
    some ((match (objects key).current with
      | some entry => .ok entry
      | none => .error .notFound), objects)
  | .get _, _, objects => some (.error .unavailable, objects)
  | .put key body mode, .answered version, objects =>
    objects.apply etags key body mode version
  | .put key body mode, .lost version, objects =>
    (objects.apply etags key body mode version).map fun result =>
      (.error .unavailable, result.2)
  | .put _ _ _, .failed, objects => some (.error .unavailable, objects)

variable {etags : Versioning Body Version} {objects after : Objects Key Body Version}
variable {key : Key} {body : Body} {mode : PutMode Version} {delivery : Delivery Version}

theorem Objects.exec_get_cases {answer : Except StoreError (Entry Body Version)}
    (executed : objects.exec etags (.get key) delivery = some (answer, after)) : after = objects ∧
      ((∃ entry, answer = .ok entry ∧ (objects key).current = some entry) ∨
        (answer = .error .notFound ∧ (objects key).current = none) ∨
        answer = .error .unavailable) := by
  cases delivery with
  | answered version =>
    cases executed
    cases found : (objects key).current with
    | none => exact ⟨rfl, .inr (.inl ⟨rfl, rfl⟩)⟩
    | some entry => exact ⟨rfl, .inl ⟨entry, rfl, rfl⟩⟩
  | lost version =>
    cases executed
    exact ⟨rfl, .inr (.inr rfl)⟩
  | failed =>
    cases executed
    exact ⟨rfl, .inr (.inr rfl)⟩

theorem Objects.apply_cases {version : Version} {result : Except StoreError Version}
    (applied : objects.apply etags key body mode version = some (result, after)) :
    ((objects key).admits mode = true ∧ etags (objects key) body version = true ∧
        after = Function.update objects key ((objects key).write ⟨body, version⟩) ∧
        result = .ok version) ∨
      ((objects key).admits mode = false ∧ after = objects ∧ result = .error mode.refusal) := by
  unfold Objects.apply at applied
  split at applied
  · next admitted =>
      split at applied
      · next issued =>
          cases applied
          exact .inl ⟨admitted, issued, rfl, rfl⟩
      · cases applied
  · next refused =>
      cases applied
      exact .inr ⟨by simpa using refused, rfl, rfl⟩

/-- A put is applied under its condition, or changes nothing. An answered put says which;
an unanswered one may be either. -/
theorem Objects.exec_put_cases {answer : Except StoreError Version}
    (executed : objects.exec etags (.put key body mode) delivery = some (answer, after)) :
    (∃ version, (objects key).admits mode = true ∧ etags (objects key) body version = true ∧
        after = Function.update objects key ((objects key).write ⟨body, version⟩) ∧
        (answer = .ok version ∨ answer = .error .unavailable ∧ delivery = .lost version)) ∨
      (after = objects ∧ ((objects key).admits mode = false ∧ answer = .error mode.refusal ∨
        answer = .error .unavailable ∧ ∀ version, delivery ≠ .answered version)) := by
  cases delivery with
  | answered version =>
    rcases Objects.apply_cases executed with ⟨admitted, issued, written, rfl⟩ | ⟨refused, same, rfl⟩
    · exact .inl ⟨version, admitted, issued, written, .inl rfl⟩
    · exact .inr ⟨same, .inl ⟨refused, rfl⟩⟩
  | lost version =>
    obtain ⟨⟨result, world⟩, applied, answered⟩ := Option.map_eq_some_iff.mp executed
    cases answered
    rcases Objects.apply_cases applied with ⟨admitted, issued, written, -⟩ | ⟨-, same, -⟩
    · exact .inl ⟨version, admitted, issued, written, .inr ⟨rfl, rfl⟩⟩
    · exact .inr ⟨same, .inr ⟨rfl, by simp⟩⟩
  | failed =>
    cases executed
    exact .inr ⟨rfl, .inr ⟨rfl, by simp⟩⟩

def storeMachine (etags : Versioning Body Version) :
    Machine (StoreSig Key Body Version) (Objects Key Body Version) (Delivery Version) where
  exec _ act delivery objects := objects.exec etags act delivery

end Machine

end Barista.Foundation
