import Mathlib.Algebra.Group.Nat.Defs
import Mathlib.Data.List.Sort
import Mathlib.Data.Int.Order.Basic

/-!
Contract: byte streams that can be read back.

A code is self-delimiting when its words can be told off the front of any longer stream, so that
codes written one after another can be read one after another. Sizes are what a machine word holds,
by the types of the values.

Owns: self-delimiting codes and how they compose, little-endian words, length-prefixed frames and
counted sequences, and the sorted form of a sequence whose order does not matter.
-/

namespace Barista.Foundation

/-! ### Sized values -/

abbrev Vec (α : Type) := { items : List α // items.length < 2 ^ 64 }

abbrev Text := { text : String // text.utf8ByteSize < 2 ^ 64 }

namespace Vec

variable {α β κ : Type}

def empty : Vec α := ⟨[], Nat.two_pow_pos 64⟩

def sortBy [LinearOrder κ] (key : α → κ) (items : Vec α) : Vec α :=
  ⟨items.val.insertionSort fun left right => key left ≤ key right, by
    rw [List.length_insertionSort]
    exact items.property⟩

theorem sortBy_eq_iff [LinearOrder κ] {key : α → κ} (injective : Function.Injective key)
    {left right : Vec α} : left.sortBy key = right.sortBy key ↔ left.val.Perm right.val := by
  have : Std.Total fun left right : α => key left ≤ key right := ⟨fun _ _ => le_total _ _⟩
  have : IsTrans α fun left right => key left ≤ key right := ⟨fun _ _ _ => le_trans⟩
  have permutes (items : Vec α) : (items.sortBy key).val.Perm items.val :=
    List.perm_insertionSort ..
  have sorted (items : Vec α) : (items.sortBy key).val.Pairwise fun left right =>
    key left ≤ key right :=
    List.pairwise_insertionSort ..
  constructor
  · intro same
    exact ((permutes left).symm.trans (by rw [same])).trans (permutes right)
  · intro permuted
    refine Subtype.ext (List.Perm.eq_of_pairwise ?_ (sorted left) (sorted right) ?_)
    · intro one other _ _ below above
      exact injective (le_antisymm below above)
    · exact ((permutes left).trans permuted).trans (permutes right).symm

end Vec

namespace Text

def empty : Text := ⟨"", by decide⟩

instance : LawfulBEq Text := inferInstance

theorem toByteArray_eq (text : String) :
    text.toByteArray = (text.toList.flatMap String.utf8EncodeChar).toByteArray := by
  conv => lhs; rw [← @String.ofList_toList text, String.toByteArray_ofList]
  rfl

theorem utf8ByteSize_eq (text : String) :
    text.utf8ByteSize = (text.toList.flatMap String.utf8EncodeChar).length := by
  rw [← String.size_toByteArray, toByteArray_eq, List.size_toByteArray]

theorem utf8ByteSize_ascii {chars : List Char} (ascii : ∀ char ∈ chars, char.utf8Size = 1) :
    (String.ofList chars).utf8ByteSize = chars.length := by
  rw [utf8ByteSize_eq, String.toList_ofList]
  induction chars with
  | nil => rfl
  | cons char rest ih =>
    obtain ⟨first, others⟩ := List.forall_mem_cons.mp ascii
    rw [List.flatMap_cons, List.length_append, ih others,
      String.length_utf8EncodeChar, first, List.length_cons, Nat.add_comm]

def bytes (text : Text) : Vec UInt8 :=
  ⟨text.val.toList.flatMap String.utf8EncodeChar, utf8ByteSize_eq text.val ▸ text.property⟩

theorem bytes_injective : Function.Injective bytes := by
  intro left right same
  have encoded : left.val.toByteArray = right.val.toByteArray := by
    rw [toByteArray_eq, toByteArray_eq]
    exact congrArg (fun bytes : Vec UInt8 => bytes.val.toByteArray) same
  exact Subtype.ext (String.toByteArray_inj.mp encoded)

end Text

/-! ### Numbers in texts -/

theorem decimal_injective {first second : Nat} (same : toString first = toString second) :
    first = second := by
  rw [Nat.toString_eq_repr, Nat.toString_eq_repr, Nat.repr_eq_ofList_toDigits,
    Nat.repr_eq_ofList_toDigits] at same
  rw [← Nat.ofDigitChars_ten_toDigits (n := first), String.ofList_injective same,
    Nat.ofDigitChars_ten_toDigits]

theorem after_decimal {first second : Nat} {left right : String}
    (same : toString first ++ ":" ++ left = toString second ++ ":" ++ right) : left = right := by
  have dropped (number : Nat) (rest : String) :
      (toString number ++ ":" ++ rest).toList.dropWhile Char.isDigit = ':' :: rest.toList := by
    have digits : ∀ char ∈ (toString number).toList, char.isDigit = true := by
      rw [Nat.toString_eq_repr, Nat.repr_eq_ofList_toDigits, String.toList_ofList]
      intro char member
      exact Nat.isDigit_of_mem_toDigits (b := 10) (by decide) (by decide) member
    rw [String.toList_append, String.toList_append, List.append_assoc,
      List.dropWhile_append_of_pos digits]
    rfl
  have behind := congrArg (fun text : String => text.toList.dropWhile Char.isDigit) same
  simp only [dropped] at behind
  exact String.toList_injective (List.cons.inj behind).2

/-! ### Self-delimiting codes -/

variable {α β γ : Type}

/-- The words of a code can be told off the front of any stream. -/
def SelfDelimiting (code : α → List γ) : Prop :=
  ∀ (left right : α) (afterLeft afterRight : List γ),
    code left ++ afterLeft = code right ++ afterRight → left = right ∧ afterLeft = afterRight

namespace SelfDelimiting

theorem injective {code : α → List γ} (delimited : SelfDelimiting code) :
    Function.Injective code := by
  intro left right same
  exact (delimited _ _ _ _ (congrArg (· ++ []) same)).1

theorem comp {code : β → List γ} (delimited : SelfDelimiting code) {f : α → β}
    (injective : Function.Injective f) : SelfDelimiting (code ∘ f) := by
  intro left right afterLeft afterRight same
  obtain ⟨alike, rest⟩ := delimited _ _ _ _ same
  exact ⟨injective alike, rest⟩

theorem of_width {code : α → List γ} {width : Nat} (wide : ∀ value, (code value).length = width)
    (injective : Function.Injective code) : SelfDelimiting code := by
  intro left right afterLeft afterRight same
  obtain ⟨alike, rest⟩ := List.append_inj same ((wide left).trans (wide right).symm)
  exact ⟨injective alike, rest⟩

theorem flatMap {code : α → List γ} (delimited : SelfDelimiting code) {left right : List α}
    (counted : left.length = right.length) {afterLeft afterRight : List γ}
    (same : left.flatMap code ++ afterLeft = right.flatMap code ++ afterRight) :
    left = right ∧ afterLeft = afterRight := by
  induction left generalizing right with
  | nil =>
    cases right with
    | nil => exact ⟨rfl, same⟩
    | cons first rest => cases counted
  | cons first rest ih =>
    cases right with
    | nil => cases counted
    | cons other others =>
      rw [List.flatMap_cons, List.flatMap_cons, List.append_assoc, List.append_assoc] at same
      obtain ⟨rfl, remaining⟩ := delimited _ _ _ _ same
      obtain ⟨rfl, after⟩ := ih (Nat.succ.inj counted) remaining
      exact ⟨rfl, after⟩

end SelfDelimiting

/-! ### Words, frames and counted sequences -/

/-- The least significant `width` bytes of a number, the lowest first. -/
def leBytes : (width : Nat) → Nat → List UInt8
  | 0, _ => []
  | width + 1, number => UInt8.ofNat number :: leBytes width (number / 256)

theorem length_leBytes (width number : Nat) : (leBytes width number).length = width := by
  induction width generalizing number with
  | zero => rfl
  | succ width ih => simp [leBytes, ih]

theorem leBytes_inj {width left right : Nat} (leftFits : left < 256 ^ width)
    (rightFits : right < 256 ^ width) (same : leBytes width left = leBytes width right) :
    left = right := by
  induction width generalizing left right with
  | zero => simp_all
  | succ width ih =>
    obtain ⟨low, high⟩ := List.cons.inj same
    have lowest : left % 256 = right % 256 := by
      simpa using congrArg UInt8.toNat low
    have highest : left / 256 = right / 256 := by
      rw [Nat.pow_succ] at leftFits rightFits
      exact ih (Nat.div_lt_of_lt_mul (by omega))
        (Nat.div_lt_of_lt_mul (by omega)) high
    omega

theorem leBytes_word {left right : Nat} (leftFits : left < 2 ^ 64) (rightFits : right < 2 ^ 64)
    (same : leBytes 8 left = leBytes 8 right) : left = right :=
  leBytes_inj (by simpa using leftFits) (by simpa using rightFits) same

def frame (bytes : Vec UInt8) : List UInt8 := leBytes 8 bytes.val.length ++ bytes.val

theorem frame_selfDelimiting : SelfDelimiting frame := by
  intro left right afterLeft afterRight same
  rw [frame, frame, List.append_assoc, List.append_assoc] at same
  obtain ⟨lengths, rest⟩ :=
    List.append_inj same ((length_leBytes ..).trans (length_leBytes ..).symm)
  have long := leBytes_word left.property right.property lengths
  obtain ⟨alike, after⟩ := List.append_inj rest long
  exact ⟨Subtype.ext alike, after⟩

def counted (code : α → List UInt8) (items : Vec α) : List UInt8 :=
  leBytes 8 items.val.length ++ items.val.flatMap code

theorem counted_selfDelimiting {code : α → List UInt8} (delimited : SelfDelimiting code) :
    SelfDelimiting (counted code) := by
  intro left right afterLeft afterRight same
  rw [counted, counted, List.append_assoc, List.append_assoc] at same
  obtain ⟨numbers, rest⟩ :=
    List.append_inj same ((length_leBytes ..).trans (length_leBytes ..).symm)
  have many := leBytes_word left.property right.property numbers
  obtain ⟨alike, after⟩ := delimited.flatMap many rest
  exact ⟨Subtype.ext alike, after⟩

end Barista.Foundation
