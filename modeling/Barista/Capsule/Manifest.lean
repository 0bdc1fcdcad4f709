import Mathlib.Algebra.GroupWithZero.Nat
import Mathlib.Data.Prod.Lex
import Mathlib.Data.List.Lex
import Barista.Foundation.Encoding

/-!
Contract: what a capsule is, independent of where its bytes live.

A capsule is a manifest and the immutable objects it names. Its id is the digest of the manifest's
canonical stream: named fields in a fixed order, each behind its length, with the required
capabilities and the objects sorted and behind their number.

Owns: manifests, the canonical stream, content ids, and which manifests share an id. Does not own:
the digest function, which is a parameter, or where objects are stored.
-/

namespace Barista.Capsule

open Foundation

/-! ### Content ids -/

abbrev Digest := { bytes : List UInt8 // bytes.length = 32 }

def hexDigit (nibble : Nat) : Char :=
  if nibble < 10 then Char.ofNat (48 + nibble) else Char.ofNat (87 + nibble)

def toLower (bytes : List UInt8) : List Char :=
  bytes.flatMap fun byte => [hexDigit (byte.toNat / 16), hexDigit (byte.toNat % 16)]

/-- The `sha256:<hex>` label of a digest. -/
def label (digest : Digest) : String := "sha256:" ++ String.ofList (toLower digest.val)

/-- What tells a digit from the other characters a name may have. -/
def isHexDigit (char : Char) : Bool := char.isDigit || ('a' ≤ char && char ≤ 'f')

theorem hexDigit_facts : ∀ nibble < 16, (hexDigit nibble).utf8Size = 1 ∧
    isHexDigit (hexDigit nibble) = true := by
  decide

theorem hexDigit_inj : ∀ left < 16, ∀ right < 16, hexDigit left = hexDigit right →
    left = right := by
  decide

theorem nibbles_lt (byte : UInt8) : byte.toNat / 16 < 16 ∧ byte.toNat % 16 < 16 := by
  have := byte.toNat_lt
  omega

theorem toLower_digits {bytes : List UInt8} : ∀ char ∈ toLower bytes,
    char.utf8Size = 1 ∧ isHexDigit char = true := by
  intro char member
  obtain ⟨byte, -, digit⟩ := List.mem_flatMap.mp member
  rcases List.mem_pair.mp digit with rfl | rfl
  · exact hexDigit_facts _ (nibbles_lt byte).1
  · exact hexDigit_facts _ (nibbles_lt byte).2

theorem toLower_length (bytes : List UInt8) : (toLower bytes).length = 2 * bytes.length := by
  induction bytes with
  | nil => rfl
  | cons byte rest ih =>
    have unfolded : toLower (byte :: rest) =
        hexDigit (byte.toNat / 16) :: hexDigit (byte.toNat % 16) :: toLower rest := rfl
    rw [unfolded, List.length_cons, List.length_cons, ih, List.length_cons]
    omega

theorem byte_selfDelimiting :
    SelfDelimiting fun byte :
    UInt8 => [hexDigit (byte.toNat / 16), hexDigit (byte.toNat % 16)] := by
  have wide : ∀ byte : UInt8,
      [hexDigit (byte.toNat / 16), hexDigit (byte.toNat % 16)].length = 2 := fun _ => rfl
  refine SelfDelimiting.of_width wide ?_
  intro left right same
  obtain ⟨high, rest⟩ := List.cons.inj same
  have highest := hexDigit_inj _ (nibbles_lt left).1 _ (nibbles_lt right).1 high
  have lowest := hexDigit_inj _ (nibbles_lt left).2 _ (nibbles_lt right).2 (List.cons.inj rest).1
  exact UInt8.toNat_inj.mp (by omega)

theorem label_injective : Function.Injective label := by
  intro left right same
  have digits : toLower left.val = toLower right.val :=
    String.ofList_injective ((String.append_right_inj _).mp same)
  have long : left.val.length = right.val.length := left.property.trans right.property.symm
  exact Subtype.ext (byte_selfDelimiting.flatMap long (congrArg (· ++ []) digits)).1

theorem label_size (digest : Digest) : (label digest).utf8ByteSize = 71 := by
  have digits : (String.ofList (toLower digest.val)).utf8ByteSize = 64 := by
    rw [Text.utf8ByteSize_ascii fun char member => (toLower_digits char member).1, toLower_length,
      digest.property]
  rw [label, String.utf8ByteSize_append, digits]
  rfl

def contentId (digest : Digest) : Text := ⟨label digest, by rw [label_size]; decide⟩

def objectDigest (sha256 : List UInt8 → Digest) (bytes : Vec UInt8) : Text :=
  contentId (sha256 bytes.val)

theorem contentId_injective : Function.Injective contentId := fun _ _ same =>
  label_injective (congrArg Subtype.val same)

/-! ### Manifests -/

def SCHEMA_VERSION : Text := ⟨"barista.capsule/v1alpha2", by decide⟩

inductive CapsuleObjectType where
  | unspecified | memory | disk | metadata
deriving DecidableEq, Repr

def mediaType : CapsuleObjectType → Text
  | .memory => ⟨"application/vnd.barista.snapshot.memory", by decide⟩
  | .disk => ⟨"application/vnd.barista.snapshot.disk", by decide⟩
  | .metadata => ⟨"application/vnd.barista.snapshot.metadata", by decide⟩
  | .unspecified => ⟨"application/octet-stream", by decide⟩

def CapsuleObjectType.toInt32 : CapsuleObjectType → Int32
  | .unspecified => 0
  | .memory => 1
  | .disk => 2
  | .metadata => 3

def CapsuleObjectType.tryFrom (number : Int32) : Option CapsuleObjectType :=
  [unspecified, memory, disk, metadata].find? fun kind => kind.toInt32 = number

structure CapsuleObject where
  digest : Text
  length : UInt64
  type : Int32
  mediaType : Text
deriving DecidableEq

@[ext] structure Timestamp where
  seconds : Int64
  nanos : Int32
deriving DecidableEq

structure CapsuleManifest where
  schemaVersion : Text
  cpuClass : Text
  templateHash : Text
  runtimeBundleRef : Text
  kind : Int32
  objects : Vec CapsuleObject
  lineageId : Text
  architecture : Text
  createdAt : Option Timestamp
  requiredRestoreCapabilities : Vec Text
deriving DecidableEq

/-! ### The canonical stream -/

def word32 (number : BitVec 32) : Vec UInt8 :=
  ⟨leBytes 4 number.toNat, by rw [length_leBytes]; decide⟩

def word64 (number : BitVec 64) : Vec UInt8 :=
  ⟨leBytes 8 number.toNat, by rw [length_leBytes]; decide⟩

def feed (part : Vec UInt8) : List UInt8 := frame part

def textKey (text : Text) : List ℕ := text.bytes.val.map UInt8.toNat

def CapsuleObject.key (object : CapsuleObject) : List ℕ ×ₗ ℤ ×ₗ List ℕ ×ₗ ℕ :=
  toLex (textKey object.digest, toLex (object.type.toInt,
    toLex (textKey object.mediaType, object.length.toNat)))

def CapsuleObject.stream (object : CapsuleObject) : List UInt8 :=
  feed object.digest.bytes ++ feed (word64 object.length.toBitVec) ++
    feed (word32 object.type.toBitVec) ++ feed object.mediaType.bytes

namespace CapsuleManifest

def created (manifest : CapsuleManifest) : Timestamp := manifest.createdAt.getD ⟨0, 0⟩

def stream (manifest : CapsuleManifest) : List UInt8 :=
  feed manifest.schemaVersion.bytes ++ feed manifest.cpuClass.bytes ++
  feed manifest.templateHash.bytes ++ feed manifest.runtimeBundleRef.bytes ++
  feed (word32 manifest.kind.toBitVec) ++ feed manifest.lineageId.bytes ++
  feed manifest.architecture.bytes ++ feed (word64 manifest.created.seconds.toBitVec) ++
  feed (word32 manifest.created.nanos.toBitVec) ++
  counted (fun capability => feed capability.bytes)
    (manifest.requiredRestoreCapabilities.sortBy textKey) ++
  counted CapsuleObject.stream (manifest.objects.sortBy CapsuleObject.key)

end CapsuleManifest

def canonicalBytes (sha256 : List UInt8 → Digest) (manifest : CapsuleManifest) : Digest :=
  sha256 manifest.stream

def capsuleId (sha256 : List UInt8 → Digest) (manifest : CapsuleManifest) : Text :=
  contentId (canonicalBytes sha256 manifest)

/-! ### Reading the stream back -/

theorem word32_injective : Function.Injective word32 := by
  intro left right same
  have fits (number : BitVec 32) : number.toNat < 256 ^ 4 := by simpa using number.isLt
  exact BitVec.eq_of_toNat_eq (leBytes_inj (fits left) (fits right) (congrArg Subtype.val same))

theorem word64_injective : Function.Injective word64 := by
  intro left right same
  exact BitVec.eq_of_toNat_eq (leBytes_word left.isLt right.isLt (congrArg Subtype.val same))

theorem feed_text : SelfDelimiting fun text : Text => feed text.bytes :=
  frame_selfDelimiting.comp Text.bytes_injective

theorem feed_word32 : SelfDelimiting fun number : BitVec 32 => feed (word32 number) :=
  frame_selfDelimiting.comp word32_injective

theorem feed_word64 : SelfDelimiting fun number : BitVec 64 => feed (word64 number) :=
  frame_selfDelimiting.comp word64_injective

theorem object_stream : SelfDelimiting CapsuleObject.stream := by
  intro left right afterLeft afterRight same
  simp only [CapsuleObject.stream, List.append_assoc] at same
  obtain ⟨digest, same⟩ := feed_text _ _ _ _ same
  obtain ⟨length, same⟩ := feed_word64 _ _ _ _ same
  obtain ⟨type, same⟩ := feed_word32 _ _ _ _ same
  obtain ⟨mediaType, same⟩ := feed_text _ _ _ _ same
  have alike : left = right := by
    cases left
    cases right
    simp_all [UInt64.toBitVec_inj, Int32.toBitVec_inj]
  exact ⟨alike, same⟩

theorem textKey_injective : Function.Injective textKey := by
  intro left right same
  have bytes : left.bytes.val = right.bytes.val :=
    List.map_injective_iff.mpr (fun _ _ => UInt8.toNat_inj.mp) same
  exact Text.bytes_injective (Subtype.ext bytes)

theorem CapsuleObject.key_injective : Function.Injective CapsuleObject.key := by
  intro left right same
  obtain ⟨digest, same⟩ := Prod.mk.inj (toLex_inj.mp same)
  obtain ⟨type, same⟩ := Prod.mk.inj (toLex_inj.mp same)
  obtain ⟨mediaType, length⟩ := Prod.mk.inj (toLex_inj.mp same)
  have digestAlike := textKey_injective digest
  have typeAlike := Int32.toInt_inj.mp type
  have mediaTypeAlike := textKey_injective mediaType
  have lengthAlike := UInt64.toNat_inj.mp length
  cases left
  cases right
  simp_all

namespace CapsuleManifest

/-- What the stream of a manifest says: the manifest with its lists sorted and its time filled in. -/
def canonical (manifest : CapsuleManifest) : CapsuleManifest :=
  { manifest with
    createdAt := some manifest.created
    requiredRestoreCapabilities := manifest.requiredRestoreCapabilities.sortBy textKey
    objects := manifest.objects.sortBy CapsuleObject.key }

/-- **The stream can be read back**: two manifests have one stream when they are one but for the
order of their lists and an absent time. -/
theorem stream_eq_iff {left right : CapsuleManifest} :
    left.stream = right.stream ↔ left.canonical = right.canonical := by
  constructor
  · intro same
    simp only [stream, List.append_assoc] at same
    obtain ⟨schemaVersion, same⟩ := feed_text _ _ _ _ same
    obtain ⟨cpuClass, same⟩ := feed_text _ _ _ _ same
    obtain ⟨templateHash, same⟩ := feed_text _ _ _ _ same
    obtain ⟨runtimeBundleRef, same⟩ := feed_text _ _ _ _ same
    obtain ⟨kind, same⟩ := feed_word32 _ _ _ _ same
    obtain ⟨lineageId, same⟩ := feed_text _ _ _ _ same
    obtain ⟨architecture, same⟩ := feed_text _ _ _ _ same
    obtain ⟨seconds, same⟩ := feed_word64 _ _ _ _ same
    obtain ⟨nanos, same⟩ := feed_word32 _ _ _ _ same
    obtain ⟨capabilities, same⟩ := counted_selfDelimiting feed_text _ _ _ _ same
    have objects := (counted_selfDelimiting object_stream).injective same
    have created : left.created = right.created :=
      Timestamp.ext (Int64.toBitVec_inj.mp seconds) (Int32.toBitVec_inj.mp nanos)
    simp only [canonical, CapsuleManifest.mk.injEq]
    exact ⟨schemaVersion, cpuClass, templateHash, runtimeBundleRef,
      Int32.toBitVec_inj.mp kind, objects,
      lineageId, architecture, congrArg some created, capabilities⟩
  · intro same
    simp only [canonical, CapsuleManifest.mk.injEq] at same
    obtain ⟨schemaVersion, cpuClass, templateHash, runtimeBundleRef, kind, objects, lineageId,
      architecture, created, capabilities⟩ := same
    simp only [stream, schemaVersion, cpuClass, templateHash, runtimeBundleRef, kind, lineageId,
      architecture, Option.some.inj created, capabilities, objects]

/-- Manifests of one capsule: the named fields agree, and the lists but for their order. -/
structure SameCapsule (left right : CapsuleManifest) : Prop where
  schemaVersion : left.schemaVersion = right.schemaVersion
  cpuClass : left.cpuClass = right.cpuClass
  templateHash : left.templateHash = right.templateHash
  runtimeBundleRef : left.runtimeBundleRef = right.runtimeBundleRef
  kind : left.kind = right.kind
  lineageId : left.lineageId = right.lineageId
  architecture : left.architecture = right.architecture
  createdAt : left.createdAt = right.createdAt
  objects : left.objects.val.Perm right.objects.val
  requiredRestoreCapabilities :
    left.requiredRestoreCapabilities.val.Perm right.requiredRestoreCapabilities.val

theorem createdAt_of_dated {manifest : CapsuleManifest} (dated : manifest.createdAt.isSome) :
    manifest.createdAt = some manifest.created := by
  obtain ⟨time, found⟩ := Option.isSome_iff_exists.mp dated
  rw [created, found]
  rfl

theorem canonical_eq_iff {left right : CapsuleManifest} (leftDated : left.createdAt.isSome)
    (rightDated : right.createdAt.isSome) :
    left.canonical = right.canonical ↔ left.SameCapsule right := by
  simp only [canonical, CapsuleManifest.mk.injEq, Vec.sortBy_eq_iff textKey_injective,
    Vec.sortBy_eq_iff CapsuleObject.key_injective, ← createdAt_of_dated leftDated,
    ← createdAt_of_dated rightDated]
  constructor
  · rintro ⟨schemaVersion, cpuClass, templateHash, runtimeBundleRef, kind, objects, lineageId,
      architecture, createdAt, capabilities⟩
    exact ⟨schemaVersion, cpuClass, templateHash, runtimeBundleRef, kind, lineageId, architecture,
      createdAt, objects, capabilities⟩
  · rintro ⟨schemaVersion, cpuClass, templateHash, runtimeBundleRef, kind, lineageId, architecture,
      createdAt, objects, capabilities⟩
    exact ⟨schemaVersion, cpuClass, templateHash, runtimeBundleRef, kind, objects, lineageId,
      architecture, createdAt, capabilities⟩

end CapsuleManifest

/-! ### Capsule ids -/

section Identity

variable {sha256 : List UInt8 → Digest} {left right : CapsuleManifest}

theorem capsuleId_eq_iff (injective : sha256 left.stream = sha256 right.stream →
    left.stream = right.stream) :
    capsuleId sha256 left = capsuleId sha256 right ↔ left.canonical = right.canonical := by
  rw [← CapsuleManifest.stream_eq_iff]
  constructor
  · intro same
    exact injective (contentId_injective same)
  · intro same
    rw [capsuleId, canonicalBytes, same, capsuleId, canonicalBytes]

/-- **Capsule identity is exact**: under a digest that tells their streams apart, two manifests with
a creation time have one id exactly when they agree on every named field and, up to order, on their
objects and their required capabilities. -/
theorem capsule_identity_exact
    (injective : sha256 left.stream = sha256 right.stream → left.stream = right.stream)
    (leftDated : left.createdAt.isSome) (rightDated : right.createdAt.isSome) :
    capsuleId sha256 left = capsuleId sha256 right ↔ left.SameCapsule right :=
  (capsuleId_eq_iff injective).trans (CapsuleManifest.canonical_eq_iff leftDated rightDated)

end Identity

/-! ### A sample -/

/-- A digest for sample runs: the bytes as one number, in 32 bytes. -/
def checksum (bytes : List UInt8) : Digest :=
  ⟨leBytes 32 (bytes.foldl (fun sum byte => sum * 257 + byte.toNat + 1) 0), length_leBytes ..⟩

def sampleObject (text : String) (sized : text.utf8ByteSize < 2 ^ 64) : CapsuleObject :=
  ⟨objectDigest checksum (Text.bytes ⟨text, sized⟩), 3, 1, mediaType .memory⟩

def sampleMemory : CapsuleObject := sampleObject "mem" (by decide)

def sampleId : Text := ⟨"c", by decide⟩

def sampleManifest : CapsuleManifest where
  schemaVersion := SCHEMA_VERSION
  cpuClass := ⟨"ab", by decide⟩
  templateHash := sampleId
  runtimeBundleRef := Text.empty
  kind := 1
  objects := ⟨[sampleMemory, sampleObject "dsk" (by decide), sampleMemory], by simp⟩
  lineageId := ⟨"l", by decide⟩
  architecture := ⟨"x86_64", by decide⟩
  createdAt := some ⟨1, 0⟩
  requiredRestoreCapabilities := ⟨[⟨"snapshot", by decide⟩, ⟨"fork", by decide⟩], by simp⟩

def sampleReordered : CapsuleManifest :=
  { sampleManifest with
    objects := ⟨sampleManifest.objects.val.reverse, by simp [sampleManifest]⟩
    requiredRestoreCapabilities :=
      ⟨sampleManifest.requiredRestoreCapabilities.val.reverse, by simp [sampleManifest]⟩ }

/-- A capsule of no objects, told by two of its fields. -/
def sampleSplit (cpuClass templateHash : Text) : CapsuleManifest :=
  { sampleManifest with
    cpuClass := cpuClass, templateHash := templateHash
    objects := .empty, requiredRestoreCapabilities := .empty }

/-- The order of the objects does not matter; where the bytes of two fields are split does. -/
theorem sample_identities : capsuleId checksum sampleManifest = capsuleId checksum sampleReordered ∧
      capsuleId checksum (sampleSplit ⟨"ab", by decide⟩ ⟨"c", by decide⟩) ≠
        capsuleId checksum (sampleSplit ⟨"a", by decide⟩ ⟨"bc", by decide⟩) := by
  have reordered : sampleManifest.SameCapsule sampleReordered :=
    ⟨rfl, rfl, rfl, rfl, rfl, rfl, rfl, rfl, (List.reverse_perm _).symm, (List.reverse_perm _).symm⟩
  constructor
  · refine (capsule_identity_exact (fun _ => ?_) rfl rfl).mpr reordered
    exact CapsuleManifest.stream_eq_iff.mpr
      ((CapsuleManifest.canonical_eq_iff rfl rfl).mpr reordered)
  · intro same
    have apart : checksum (sampleSplit ⟨"ab", by decide⟩ ⟨"c", by decide⟩).stream ≠
        checksum (sampleSplit ⟨"a", by decide⟩ ⟨"bc", by decide⟩).stream := by decide +kernel
    have alike := (capsule_identity_exact (fun equal => absurd equal apart) rfl rfl).mp same
    exact absurd alike.cpuClass (by decide)

end Barista.Capsule
