import Barista.Foundation.Encoding

/-!
Contract: the base64 in which a desired spec crosses the bucket.

Three bytes are a word of twenty-four bits and four digits; a shorter chunk is filled up with zeros, and
what is not a digit of it is `=`. The reader passes `=` by wherever it stands, and writes a byte out as soon
as it has eight bits that it has not written yet.

Owns: `encode` and `decode` of `base64_bytes`. Does not own: the record around the text, and what the bytes
of a spec mean.
-/

namespace Barista.Fleet.Base64Bytes

open Foundation

def alphabet : List UInt8 :=
  "ABCDEFGHIJKLMNOPQRSTUVWXYZabcdefghijklmnopqrstuvwxyz0123456789+/".toList.map fun char =>
    .ofNat char.toNat

/-- `ALPHABET[value]`. -/
def letter (value : Nat) : UInt8 := alphabet.getD value 0

def digit (value : Nat) : Char := .ofNat (letter value).toNat

/-- `bytes.chunks(3)`. -/
def chunks : List UInt8 → List (List UInt8)
  | [] => []
  | [a] => [[a]]
  | [a, b] => [[a, b]]
  | a :: b :: c :: rest => [a, b, c] :: chunks rest

/-- What `encode` writes of one chunk. -/
def quantum (chunk : List UInt8) : List Char :=
  let b (i : Nat) := (chunk.getD i 0).toNat
  let n := (b 0 <<< 16) ||| (b 1 <<< 8) ||| b 2
  (List.range 4).map fun i => if i ≤ chunk.length then digit ((n >>> (18 - 6 * i)) &&& 0x3F)
    else '='

def encode (bytes : List UInt8) : String := .ofList ((chunks bytes).flatMap quantum)

/-- The variables of `decode`: a `u32` whose upper bits are shifted out, how many of its lowest bits have not
been written yet, and what has. -/
structure Reader where
  acc : Nat
  bits : Nat
  out : List UInt8

/-- One turn of the loop of `decode`. -/
def Reader.take (reader : Reader) (c : UInt8) : Except String Reader :=
  match alphabet.idxOf? c with
  | none => .error ("not base64: byte 0x" ++ .ofList (Nat.toDigits 16 c.toNat))
  | some v =>
    let acc := (reader.acc <<< 6) % 2 ^ 32 ||| v
    let bits := reader.bits + 6
    if 8 ≤ bits then .ok ⟨acc, bits - 8, reader.out ++ [.ofNat (acc >>> (bits - 8))]⟩
    else .ok ⟨acc, bits, reader.out⟩

/-- `text.bytes().filter(|c| *c != b'=')`. -/
def plain (text : List Char) : List UInt8 := (text.flatMap String.utf8EncodeChar).filter (· ≠ 61)

def decode (text : String) : Except String (List UInt8) :=
  ((plain text.toList).foldlM Reader.take ⟨0, 0, []⟩).map Reader.out

/-! ### Digits -/

section Digits

variable {value : Nat}

theorem digit_spec (small : value < 64) : String.utf8EncodeChar (digit value) = [letter value] ∧
      alphabet.idxOf? (letter value) = some value ∧ letter value ≠ 61 := by
  have all : ((List.range 64).all fun value =>
      String.utf8EncodeChar (digit value) = [letter value] ∧
        alphabet.idxOf? (letter value) = some value ∧ letter value ≠ 61) = true := by decide +kernel
  simpa using List.all_eq_true.mp all value (List.mem_range.mpr small)

theorem plain_append (first second : List Char) : plain (first ++ second) = plain first ++
    plain second := by
  simp [plain]

theorem plain_digit (small : value < 64) (rest : List Char) :
    plain (digit value :: rest) = letter value :: plain rest := by
  simp [plain, digit_spec small]

theorem plain_padding (rest : List Char) : plain ('=' :: rest) = plain rest := by
  simp [plain, show String.utf8EncodeChar '=' = [61] by decide]

theorem take_letter (small : value < 64) (acc bits : Nat) (out : List UInt8) :
    Reader.take ⟨acc, bits, out⟩ (letter value) =
      .ok (if 2 ≤ bits then ⟨acc * 64 % 2 ^ 32 + value, bits - 2,
          out ++ [.ofNat ((acc * 64 % 2 ^ 32 + value) / 2 ^ (bits - 2))]⟩
        else ⟨acc * 64 % 2 ^ 32 + value, bits + 6, out⟩) := by
  have joined : acc <<< 6 % 2 ^ 32 ||| value = acc * 64 % 2 ^ 32 + value := by
    have shifted : acc <<< 6 % 2 ^ 32 = 2 ^ 6 * (acc % 2 ^ 26) := by
      rw [Nat.shiftLeft_eq]
      omega
    rw [shifted, ← Nat.two_pow_add_eq_or_of_lt (show value < 2 ^ 6 by omega)]
    omega
  simp only [Reader.take, (digit_spec small).2.1, joined, Nat.shiftRight_eq_div_pow]
  by_cases full : 2 ≤ bits
  · rw [if_pos (show 8 ≤ bits + 6 by omega), if_pos full, show bits + 6 - 8 = bits - 2 by omega]
  · rw [if_neg (show ¬ 8 ≤ bits + 6 by omega), if_neg full]

variable {acc bits : Nat} {out : List UInt8}

theorem read_first (small : value < 64) (rest : List UInt8) :
    (letter value :: rest).foldlM Reader.take ⟨acc, 0, out⟩ =
      rest.foldlM Reader.take ⟨acc * 64 % 2 ^ 32 + value, 6, out⟩ := by
  rw [List.foldlM_cons, take_letter small]
  rfl

theorem read_next (byte : UInt8) (small : value < 64) (full : 2 ≤ bits)
    (written : (acc * 64 % 2 ^ 32 + value) / 2 ^ (bits - 2) % 256 = byte.toNat)
    (rest : List UInt8) : (letter value :: rest).foldlM Reader.take ⟨acc, bits, out⟩ =
      rest.foldlM Reader.take ⟨acc * 64 % 2 ^ 32 + value, bits - 2, out ++ [byte]⟩ := by
  have isByte : UInt8.ofNat ((acc * 64 % 2 ^ 32 + value) / 2 ^ (bits - 2)) = byte := by
    apply UInt8.toNat_inj.mp
    rw [UInt8.toNat_ofNat']
    exact written
  rw [List.foldlM_cons, take_letter small, if_pos full, isByte]
  rfl

end Digits

/-! ### Quanta -/

section Quanta

variable (a b c : UInt8)

theorem word_digits :
    let n := a.toNat <<< 16 ||| b.toNat <<< 8 ||| c.toNat
    n >>> 18 &&& 0x3F = a.toNat / 4 ∧ n >>> 12 &&& 0x3F = a.toNat % 4 * 16 + b.toNat / 16 ∧
      n >>> 6 &&& 0x3F = b.toNat % 16 * 4 + c.toNat / 64 ∧ n >>> 0 &&& 0x3F = c.toNat % 64 := by
  have smallA := a.toNat_lt
  have smallB := b.toNat_lt
  have smallC := c.toNat_lt
  have word : a.toNat <<< 16 ||| b.toNat <<< 8 ||| c.toNat =
      a.toNat * 65536 + b.toNat * 256 + c.toNat := by
    have upper : a.toNat <<< 16 ||| b.toNat <<< 8 = 2 ^ 8 * (a.toNat * 256 + b.toNat) := by
      rw [← Nat.shiftLeft_add_eq_or_of_lt
        (show b.toNat <<< 8 < 2 ^ 16 by rw [Nat.shiftLeft_eq]; omega)]
      simp only [Nat.shiftLeft_eq]
      omega
    calc a.toNat <<< 16 ||| b.toNat <<< 8 ||| c.toNat
        = 2 ^ 8 * (a.toNat * 256 + b.toNat) ||| c.toNat := by rw [upper]
      _ = 2 ^ 8 * (a.toNat * 256 + b.toNat) + c.toNat :=
        (Nat.two_pow_add_eq_or_of_lt smallC _).symm
      _ = a.toNat * 65536 + b.toNat * 256 + c.toNat := by omega
  have low (n : Nat) : n &&& 0x3F = n % 64 := Nat.and_two_pow_sub_one_eq_mod n 6
  simp only [word, low, Nat.shiftRight_eq_div_pow]
  omega

theorem quantum_three :
    quantum [a, b, c] = [digit (a.toNat / 4), digit (a.toNat % 4 * 16 + b.toNat / 16),
      digit (b.toNat % 16 * 4 + c.toNat / 64), digit (c.toNat % 64)] := by
  obtain ⟨first, second, third, fourth⟩ := word_digits a b c
  rw [← first, ← second, ← third, ← fourth]
  rfl

theorem quantum_two :
    quantum [a, b] = [digit (a.toNat / 4), digit (a.toNat % 4 * 16 + b.toNat / 16),
      digit (b.toNat % 16 * 4), '='] := by
  obtain ⟨first, second, third, -⟩ := word_digits a b 0
  rw [← first, ← second, show b.toNat % 16 * 4 = _ from third.symm]
  rfl

theorem quantum_one : quantum [a] = [digit (a.toNat / 4), digit (a.toNat % 4 * 16), '=', '='] := by
  obtain ⟨first, second, -, -⟩ := word_digits a 0 0
  rw [← first, show a.toNat % 4 * 16 = _ from second.symm]
  rfl

end Quanta

/-! ### Texts -/

theorem read_encoded (bytes out : List UInt8) (acc : Nat) : ∃ acc' bits,
    (plain ((chunks bytes).flatMap quantum)).foldlM Reader.take ⟨acc, 0, out⟩ = .ok
      ⟨acc', bits, out ++ bytes⟩ := by
  induction bytes using chunks.induct generalizing acc out with
  | case1 => exact ⟨acc, 0, by rw [List.append_nil]; rfl⟩
  | case2 a =>
    have smallA := a.toNat_lt
    rw [chunks, List.flatMap_singleton, quantum_one, plain_digit (by omega), plain_digit (by omega),
      plain_padding, plain_padding, read_first (by omega), read_next a (by omega)
      (by omega) (by omega)]
    exact ⟨_, _, rfl⟩
  | case3 a b =>
    have smallA := a.toNat_lt
    have smallB := b.toNat_lt
    rw [chunks, List.flatMap_singleton, quantum_two, plain_digit (by omega), plain_digit (by omega),
      plain_digit (by omega), plain_padding, read_first (by omega),
      read_next a (by omega) (by omega) (by omega), read_next b (by omega) (by omega) (by omega),
      List.append_assoc]
    exact ⟨_, _, rfl⟩
  | case4 a b c rest ih =>
    have smallA := a.toNat_lt
    have smallB := b.toNat_lt
    have smallC := c.toNat_lt
    obtain ⟨acc', bits, read⟩ := ih (out ++ [a] ++ [b] ++ [c]) _
    rw [chunks, List.flatMap_cons, plain_append, quantum_three, plain_digit (by omega),
      plain_digit (by omega), plain_digit (by omega), plain_digit (by omega), List.cons_append,
      read_first (by omega)]
    rw [List.cons_append, read_next a (by omega) (by omega) (by omega), List.cons_append,
      read_next b (by omega) (by omega) (by omega), List.cons_append,
      read_next c (by omega) (by omega) (by omega), show plain [] = [] from rfl, List.nil_append]
    exact ⟨acc', bits, by simpa using read⟩

theorem take_bits {reader after : Reader} {c : UInt8} (taken : reader.take c = .ok after) :
    8 * after.out.length + after.bits = 8 * reader.out.length + reader.bits + 6 := by
  unfold Reader.take at taken
  split at taken
  · cases taken
  · dsimp only at taken
    split at taken
    · cases taken
      simp only [List.length_append, List.length_singleton]
      omega
    · cases taken
      dsimp only
      omega

theorem read_bits {reader last : Reader} {bytes : List UInt8}
    (read : bytes.foldlM Reader.take reader = .ok last) :
    8 * last.out.length + last.bits = 8 * reader.out.length + reader.bits + 6 * bytes.length := by
  induction bytes generalizing reader with
  | nil =>
    cases read
    rfl
  | cons c rest ih =>
    rw [List.foldlM_cons] at read
    cases taken : reader.take c with
    | error cause =>
      rw [taken] at read
      cases read
    | ok after =>
      rw [taken] at read
      have first := take_bits taken
      have others := ih read
      rw [List.length_cons]
      omega

theorem length_quanta (bytes : List UInt8) :
    ((chunks bytes).flatMap quantum).length = 4 * ((bytes.length + 2) / 3) := by
  induction bytes using chunks.induct with
  | case1 => rfl
  | case2 a => simp [chunks, quantum]
  | case3 a b => simp [chunks, quantum]
  | case4 a b c rest ih =>
    rw [chunks, List.flatMap_cons, List.length_append, ih]
    simp only [quantum, List.length_map, List.length_range, List.length_cons]
    omega

theorem utf8Size_quantum (chunk : List UInt8) : ∀ char ∈ quantum chunk, char.utf8Size = 1 := by
  intro char member
  obtain ⟨i, -, rfl⟩ := List.mem_map.mp member
  split
  · have bounded (word : Nat) : word &&& 0x3F < 64 := Nat.lt_succ_of_le Nat.and_le_right
    rw [← String.length_utf8EncodeChar, (digit_spec (bounded _)).1]
    rfl
  · rfl

/-- **Desired specs survive the encoding of their record.** What was encoded is what is decoded, in four
characters for every three bytes begun; and what is decoded from any text is at most three quarters of it. -/
theorem spec_bytes_survive :
    (∀ bytes, decode (encode bytes) = .ok bytes ∧
      (encode bytes).utf8ByteSize = 4 * ((bytes.length + 2) / 3)) ∧
    ∀ text bytes, decode text = .ok bytes → 4 * bytes.length ≤ 3 * text.utf8ByteSize := by
  refine ⟨fun bytes => ⟨?_, ?_⟩, fun text bytes decoded => ?_⟩
  · obtain ⟨acc, bits, read⟩ := read_encoded bytes [] 0
    rw [decode, encode, String.toList_ofList, read]
    rfl
  · rw [encode, Text.utf8ByteSize_ascii, length_quanta]
    intro char member
    obtain ⟨chunk, -, within⟩ := List.mem_flatMap.mp member
    exact utf8Size_quantum chunk char within
  · cases read : (plain text.toList).foldlM Reader.take ⟨0, 0, []⟩ with
    | error cause =>
      rw [decode, read] at decoded
      cases decoded
    | ok last =>
      rw [decode, read] at decoded
      cases decoded
      have counted := read_bits read
      have fewer : (plain text.toList).length ≤ text.utf8ByteSize := by
        rw [Text.utf8ByteSize_eq]
        exact List.length_filter_le ..
      simp only [List.length_nil] at counted
      show 4 * last.out.length ≤ 3 * text.utf8ByteSize
      omega

/-- Four bytes are eight characters, two of them padding. -/
theorem spec_bytes_survive_foob : decode (encode [102, 111, 111, 98]) = .ok [102, 111, 111, 98] ∧
    decode "Zm9vYg==" = .ok [102, 111, 111, 98] ∧ 4 * [102, 111, 111, 98].length ≤
      3 * "Zm9vYg==".utf8ByteSize := by
  have decoded : decode "Zm9vYg==" = .ok [102, 111, 111, 98] := by decide +kernel
  exact ⟨(spec_bytes_survive.1 [102, 111, 111, 98]).1, decoded,
    spec_bytes_survive.2 "Zm9vYg==" [102, 111, 111, 98] decoded⟩

end Barista.Fleet.Base64Bytes
