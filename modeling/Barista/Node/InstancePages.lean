import Mathlib.Data.Prod.Lex
import Mathlib.Data.String.Basic
import Barista.Foundation.Encoding
import Barista.Node.Admission

/-!
Contract: `ListInstances`, page by page.

A page is the first of the matching rows above the cursor, in the order of creation time
and id; it is cut off by a count and by the size of the answer. The token of the next page is
the last row's place in that order, in base64. The reader of a token is stricter than the
writer: it takes no id but 26 digits and capital letters, and a row's id need not be that.

Owns: tokens, one page, a client's walk along the pages, and exactly which sets of rows can be
walked whatever the filter and the page size. Does not own: what is answered for a row beside
its place and size, and base64, which is any codec with its laws.
-/

namespace Barista.Node

open Foundation

/-! ### Tokens -/

structure InstancePageCursor where
  createdAtMs : Int
  instanceId : String
deriving DecidableEq, Repr

namespace InstancePageCursor

def key (cursor : InstancePageCursor) :
    Int ×ₗ String := toLex (cursor.createdAtMs, cursor.instanceId)

end InstancePageCursor

def InstanceRow.cursor (row : InstanceRow) : InstancePageCursor := ⟨row.createdAtMs, row.instanceId⟩

def InstanceRow.key (row : InstanceRow) : Int ×ₗ String := row.cursor.key

inductive PageError where
  | refused (status : Status)
  | resourceExhausted (message : String)
deriving DecidableEq, Repr

def PageError.invalid (message : String) : PageError :=
  .refused (.withReason .invalidArgument .invalidSpec message)

/-- What tokens ask of base64 (`URL_SAFE_NO_PAD`): the reader undoes the writer, a byte takes no
more than two bytes of text, and some bytes give some text. -/
structure TokenCodec where
  encode : List UInt8 → String
  decode : String → Option (List UInt8)
  decode_encode : ∀ bytes, decode (encode bytes) = some bytes
  size_encode_le : ∀ bytes, (encode bytes).utf8ByteSize ≤ 2 * bytes.length
  encode_ne_empty : ∀ bytes, bytes ≠ [] → encode bytes ≠ ""

variable (codec : TokenCodec)

def MAX_INSTANCE_PAGE_TOKEN_BYTES : Nat := 256

def utf8 (text : List Char) : List UInt8 := text.flatMap String.utf8EncodeChar

def printI64 : Int → List Char
  | .ofNat magnitude => Nat.toDigits 10 magnitude
  | .negSucc magnitude => '-' :: Nat.toDigits 10 (magnitude + 1)

def InstancePageCursor.text (cursor : InstancePageCursor) : List Char :=
  printI64 cursor.createdAtMs ++ '\n' :: cursor.instanceId.toList

def encodeInstanceCursor (cursor : InstancePageCursor) : String :=
  codec.encode (utf8 cursor.text)

def splitOnce (text : List Char) : Option (List Char × List Char) :=
  match text.dropWhile (· ≠ '\n') with
  | [] => none
  | _ :: after => some (text.takeWhile (· ≠ '\n'), after)

def splitSign : List Char → Int × List Char
  | '-' :: digits => (-1, digits)
  | '+' :: digits => (1, digits)
  | digits => (1, digits)

/-- `str::parse::<i64>`. -/
def parseI64 (text : List Char) : Option Int :=
  let (sign, digits) := splitSign text
  let value := sign * Nat.ofDigitChars 10 digits 0
  if digits ≠ [] ∧ digits.all Char.isDigit ∧ -2 ^ 63 ≤ value ∧ value < 2 ^ 63 then
    some value
  else none

def isTokenId (id : String) : Bool :=
  id.utf8ByteSize = 26 && id.toList.all fun char => char.isUpper || char.isDigit

def decodeInstanceCursor (token : String) : Except PageError (Option InstancePageCursor) :=
  if token = "" then .ok none
  else if MAX_INSTANCE_PAGE_TOKEN_BYTES < token.utf8ByteSize then
    .error (.invalid "ListInstances page_token exceeds its bound")
  else match codec.decode token with
    | none => .error (.invalid "ListInstances page_token is not valid URL-safe base64")
    | some bytes =>
      match String.fromUTF8? bytes.toByteArray with
      | none => .error (.invalid "ListInstances page_token is not UTF-8")
      | some value =>
        match splitOnce value.toList with
        | none => .error (.invalid "ListInstances page_token has an invalid structure")
        | some (created, instanceId) =>
          if isTokenId (.ofList instanceId) = false then
            .error (.invalid "ListInstances page_token carries an invalid instance id")
          else match parseI64 created with
            | none => .error (.invalid "ListInstances page_token carries an invalid creation time")
            | some createdAtMs => .ok (some ⟨createdAtMs, .ofList instanceId⟩)

/-! ### One page -/

structure ListInstancesRequest where
  states : List InstanceState
  labelSelector : List (String × String)
  pageSize : Nat
  pageToken : String

def DEFAULT_INSTANCE_PAGE_SIZE : Nat := 256

def MAX_INSTANCE_PAGE_SIZE : Nat := 256

def MAX_INSTANCE_PAGE_BYTES : Nat := 3 * 1024 * 1024

abbrev Labels : Type := InstanceRow → String → Option String

def ListInstancesRequest.asksFor (request : ListInstancesRequest) (labels : Labels)
    (row : InstanceRow) : Bool :=
  (request.states = [] || row.state ∈ request.states) &&
    request.labelSelector.all fun (name, value) => labels row name = some value

/-- Take rows while their answers fit; whether some did not. -/
def selectRows (size : InstanceRow → Nat) : (encoded : Nat) → List InstanceRow →
    List InstanceRow × Bool
  | _, [] => ([], false)
  | encoded, row :: rest =>
    if MAX_INSTANCE_PAGE_BYTES < encoded + size row then ([], true)
    else
      let (selected, more) := selectRows size (encoded + size row) rest
      (row :: selected, more)

/-- Answer with the rows that fit, and a token if there are more. -/
def answerPage (size : InstanceRow → Nat) (rows : List InstanceRow) (moreByCount : Bool) :
    Except PageError (List InstanceRow × String) :=
  if rows.head?.any fun row => MAX_INSTANCE_PAGE_BYTES < size row then
    .error (.resourceExhausted "one admitted instance exceeds the ListInstances response budget")
  else
    let (selected, moreByBytes) := selectRows size 0 rows
    if moreByCount || moreByBytes then
      match selected.getLast? with
      | some last => .ok (selected, encodeInstanceCursor codec last.cursor)
      | none => .error (.resourceExhausted "ListInstances could not fit one result")
    else .ok (selected, "")

/-- One call: the rows answered, in place of what is answered for them, and the token of the next page.
`size` is how long a row's answer is at this call. -/
def listInstances (journal : List InstanceRow) (labels : Labels) (size : InstanceRow → Nat)
    (request : ListInstancesRequest) : Except PageError (List InstanceRow × String) := do
  let requestedSize := if request.pageSize = 0 then DEFAULT_INSTANCE_PAGE_SIZE else request.pageSize
  if MAX_INSTANCE_PAGE_SIZE < requestedSize then
    throw (.invalid "ListInstances page_size must not exceed 256")
  let cursor ← decodeInstanceCursor codec request.pageToken
  let rows := journal.filter fun row => request.asksFor labels row &&
    cursor.all fun cursor => cursor.key < row.key
  let rows := rows.mergeSort fun left right => left.key ≤ right.key
  answerPage codec size (rows.take requestedSize) (requestedSize < rows.length)

/-! ### A walk along the pages -/

/-- A client follows the tokens until there is none: call by call, from a token on, these are the pages it
is given. -/
inductive Walk (journal : List InstanceRow) (labels : Labels) (sizes : Nat → InstanceRow → Nat)
    (request : ListInstancesRequest) : Nat → String → List (List InstanceRow) → Prop
  | last {call : Nat} {token : String} {page : List InstanceRow}
      (answered : listInstances codec journal labels (sizes call)
      { request with pageToken := token } = .ok (page, "")) :
      Walk journal labels sizes request call token [page]
  | more {call : Nat} {token following : String} {page : List InstanceRow}
      {pages : List (List InstanceRow)}
      (answered : listInstances codec journal labels (sizes call)
        { request with pageToken := token } =
        .ok (page, following))
      (further : following ≠ "")
        (rest : Walk journal labels sizes request (call + 1) following pages) :
      Walk journal labels sizes request call token (page :: pages)

/-! ### What a token says -/

variable {codec}

theorem digit_char {magnitude : Nat} :
    ∀ char ∈ Nat.toDigits 10 magnitude, char.isDigit = true ∧ char.utf8Size = 1 := by
  intro char member
  have isDigit : char.isDigit = true :=
    Nat.isDigit_of_mem_toDigits (by decide) (by decide) member
  have bounded : char.val ≤ 57 := by
    simp only [Char.isDigit, Bool.and_eq_true, decide_eq_true_eq] at isDigit
    exact isDigit.2
  exact ⟨isDigit, Char.utf8Size_eq_one_iff.mpr (UInt32.le_trans bounded (by decide))⟩

variable {value : Int}

theorem printI64_char : ∀ char ∈ printI64 value, char.utf8Size = 1 ∧ char ≠ '\n' := by
  have digit {magnitude : Nat} {char : Char} (member : char ∈ Nat.toDigits 10 magnitude) :
      char.utf8Size = 1 ∧ char ≠ '\n' := by
    obtain ⟨isDigit, small⟩ := digit_char char member
    refine ⟨small, ?_⟩
    rintro rfl
    revert isDigit
    decide
  cases value with
  | ofNat magnitude => exact fun char => digit
  | negSucc magnitude =>
    intro char member
    rcases List.mem_cons.mp member with rfl | later
    · decide
    · exact digit later

theorem length_printI64_le (lower : -2 ^ 63 ≤ value) (upper : value < 2 ^ 63) :
    (printI64 value).length ≤ 20 := by
  have digits {magnitude : Nat} (small : magnitude < 10 ^ 19) :
      (Nat.toDigits 10 magnitude).length ≤ 19 :=
    (Nat.length_toDigits_le_iff (by decide) (by decide)).mpr small
  cases value with
  | ofNat magnitude =>
    have below : (magnitude : Int) < 2 ^ 63 := upper
    have small : magnitude < 10 ^ 19 := by omega
    exact (digits small).trans (by decide)
  | negSucc magnitude =>
    have small : magnitude + 1 < 10 ^ 19 := by omega
    exact Nat.succ_le_succ (digits small)

theorem splitSign_digits {text : List Char} (digits : ∀ char ∈ text, char.isDigit = true) :
    splitSign text = (1, text) := by
  unfold splitSign
  split
  · exact absurd (digits '-' List.mem_cons_self) (by decide)
  · exact absurd (digits '+' List.mem_cons_self) (by decide)
  · rfl

theorem parseI64_printI64 (lower : -2 ^ 63 ≤ value) (upper : value < 2 ^ 63) :
    parseI64 (printI64 value) = some value := by
  have some_ (magnitude : Nat) : Nat.toDigits 10 magnitude ≠ [] := by
    rw [Nat.toDigits_eq_if (by decide)]
    split <;> simp
  have restored (magnitude : Nat) : Nat.ofDigitChars 10 (Nat.toDigits 10 magnitude) 0 = magnitude :=
    Nat.ofDigitChars_toDigits (by decide) (by decide)
  have digits (magnitude : Nat) : ∀ char ∈ Nat.toDigits 10 magnitude, char.isDigit = true :=
    fun char member => (digit_char char member).1
  obtain ⟨sign, magnitude, split, whole⟩ : ∃ sign magnitude,
      splitSign (printI64 value) = (sign, Nat.toDigits 10 magnitude) ∧
      sign * (magnitude : Int) = value := by
    cases value with
    | ofNat magnitude => exact ⟨1, magnitude, splitSign_digits (digits magnitude), Int.one_mul _⟩
    | negSucc magnitude => exact ⟨-1, magnitude + 1, rfl, by omega⟩
  unfold parseI64
  simp only [split, restored, whole]
  exact if_pos ⟨some_ magnitude, List.all_eq_true.mpr (digits magnitude), lower, upper⟩

theorem splitOnce_append {before after : List Char} (unbroken : ∀ char ∈ before, char ≠ '\n') :
    splitOnce (before ++ '\n' :: after) = some (before, after) := by
  have each : ∀ char ∈ before, decide (char ≠ '\n') = true := fun char member =>
    decide_eq_true (unbroken char member)
  have dropped : (before ++ '\n' :: after).dropWhile (· ≠ '\n') = '\n' :: after := by
    rw [List.dropWhile_append_of_pos each]
    rfl
  have taken : (before ++ '\n' :: after).takeWhile (· ≠ '\n') = before := by
    rw [List.takeWhile_append_of_pos each]
    simp
  unfold splitOnce
  rw [dropped, taken]

theorem fromUTF8_utf8 (text : List Char) :
    String.fromUTF8? (utf8 text).toByteArray = some (String.ofList text) := by
  have same : (utf8 text).toByteArray = (String.ofList text).toByteArray := by
    rw [Text.toByteArray_eq, String.toList_ofList]
    rfl
  rw [same, String.fromUTF8?, dif_pos (String.isValidUTF8 _)]
  rfl

theorem length_utf8 (text : List Char) :
    (utf8 text).length = (String.ofList text).utf8ByteSize := by
  rw [Text.utf8ByteSize_eq, String.toList_ofList]
  rfl

variable {cursor : InstancePageCursor}

theorem size_encodeInstanceCursor (lower : -2 ^ 63 ≤ cursor.createdAtMs)
    (upper : cursor.createdAtMs < 2 ^ 63) (carried : cursor.instanceId.utf8ByteSize = 26) :
    (encodeInstanceCursor codec cursor).utf8ByteSize ≤ MAX_INSTANCE_PAGE_TOKEN_BYTES := by
  have number : (utf8 (printI64 cursor.createdAtMs)).length ≤ 20 := by
    rw [length_utf8, Text.utf8ByteSize_ascii fun char member => (printI64_char char member).1]
    exact length_printI64_le lower upper
  have id : (utf8 cursor.instanceId.toList).length = 26 := by
    rw [length_utf8, String.ofList_toList, carried]
  have break_ : (utf8 ['\n']).length = 1 := rfl
  have whole : utf8 cursor.text =
      utf8 (printI64 cursor.createdAtMs) ++ (utf8 ['\n'] ++ utf8 cursor.instanceId.toList) := by
    simp [utf8, InstancePageCursor.text]
  calc (encodeInstanceCursor codec cursor).utf8ByteSize
      ≤ 2 * (utf8 cursor.text).length := codec.size_encode_le _
    _ ≤ MAX_INSTANCE_PAGE_TOKEN_BYTES := by
        rw [whole, List.length_append, List.length_append]
        unfold MAX_INSTANCE_PAGE_TOKEN_BYTES
        omega

theorem encodeInstanceCursor_ne_empty (cursor : InstancePageCursor) :
    encodeInstanceCursor codec cursor ≠ "" := by
  apply codec.encode_ne_empty
  simp [utf8, InstancePageCursor.text, List.flatMap_eq_nil_iff]

/-- **A token is read back exactly if it carries an id of 26 digits and capital letters.** -/
theorem decode_encodeInstanceCursor (lower : -2 ^ 63 ≤ cursor.createdAtMs)
    (upper : cursor.createdAtMs < 2 ^ 63) :
    if isTokenId cursor.instanceId then
      decodeInstanceCursor codec (encodeInstanceCursor codec cursor) = .ok (some cursor)
    else ∃ error, decodeInstanceCursor codec (encodeInstanceCursor codec cursor) =
      .error error := by
  have bytes : codec.decode (encodeInstanceCursor codec cursor) = some (utf8 cursor.text) :=
    codec.decode_encode _
  have parts : splitOnce cursor.text = some
    (printI64 cursor.createdAtMs, cursor.instanceId.toList) :=
    splitOnce_append fun char member => (printI64_char char member).2
  unfold decodeInstanceCursor
  rw [if_neg (encodeInstanceCursor_ne_empty cursor)]
  simp only [bytes, fromUTF8_utf8, String.toList_ofList, parts, String.ofList_toList]
  by_cases carried : isTokenId cursor.instanceId = true
  · have size : cursor.instanceId.utf8ByteSize = 26 := by
      simp only [isTokenId, Bool.and_eq_true, decide_eq_true_eq] at carried
      exact carried.1
    rw [if_pos carried, if_neg (Nat.not_lt.mpr (size_encodeInstanceCursor lower upper size)),
      if_neg (by rw [carried]; nofun), parseI64_printI64 lower upper]
  · rw [if_neg carried]
    split
    · exact ⟨_, rfl⟩
    · rw [if_pos (Bool.eq_false_iff.mpr carried)]
      exact ⟨_, rfl⟩

/-- The laws can be met: one character for each byte. -/
example : TokenCodec where
  encode bytes := .ofList (bytes.map fun byte => Char.ofNat byte.toNat)
  decode text := some (text.toList.map fun char => UInt8.ofNat char.toNat)
  decode_encode bytes := by
    have each : ∀ value : Fin 256, (Char.ofNat value).toNat = value := by decide +kernel
    have known (byte : UInt8) : (Char.ofNat byte.toNat).toNat = byte.toNat :=
      each ⟨_, byte.toNat_lt⟩
    simp [Function.comp_def, known]
  size_encode_le bytes := by
    have each : ∀ value : Fin 256, (Char.ofNat value).utf8Size ≤ 2 := by decide +kernel
    rw [Text.utf8ByteSize_eq, String.toList_ofList]
    induction bytes with
    | nil => exact Nat.le_refl 0
    | cons byte rest ih =>
      have small := each ⟨byte.toNat, byte.toNat_lt⟩
      dsimp only at small
      rw [List.map_cons, List.flatMap_cons, List.length_append, String.length_utf8EncodeChar,
        List.length_cons]
      omega
  encode_ne_empty bytes some_ empty := by
    have none_ := String.ofList_injective empty
    exact some_ (List.map_eq_nil_iff.mp none_)

/-! ### What a page holds -/

/-- A set of rows as the journal may hold it: ids are its key, and times are `i64`. -/
structure Inventory where
  rows : List InstanceRow
  keyed : (rows.map InstanceRow.instanceId).Nodup
  timed : ∀ row ∈ rows, -2 ^ 63 ≤ row.createdAtMs ∧ row.createdAtMs < 2 ^ 63

def inOrder (rows : List InstanceRow) : List InstanceRow :=
  rows.mergeSort fun left right => left.key ≤ right.key

variable {rows : List InstanceRow}

theorem mem_inOrder {row : InstanceRow} : row ∈ inOrder rows ↔ row ∈ rows :=
  (List.mergeSort_perm _ _).mem_iff

theorem pairwise_inOrder (rows : List InstanceRow) :
    (inOrder rows).Pairwise fun left right => left.key ≤ right.key := by
  refine (List.pairwise_mergeSort ?_ ?_ rows).imp of_decide_eq_true
  · intro first second third before after
    exact decide_eq_true ((of_decide_eq_true before).trans (of_decide_eq_true after))
  · intro first second
    simpa using le_total first.key second.key

theorem strict_inOrder (keyed : (rows.map InstanceRow.instanceId).Nodup) :
    (inOrder rows).Pairwise fun left right => left.key < right.key := by
  have distinct : ((inOrder rows).map InstanceRow.instanceId).Nodup :=
    ((List.mergeSort_perm _ _).map _).nodup_iff.mpr keyed
  refine (pairwise_inOrder rows).imp₂ ?_ (List.pairwise_map.mp distinct)
  intro left right before apart
  refine lt_of_le_of_ne before fun same => apart ?_
  have both : (left.createdAtMs, left.instanceId) = (right.createdAtMs, right.instanceId) :=
    toLex_inj.mp same
  exact (Prod.mk.inj both).2

theorem inOrder_filter (keyed : (rows.map InstanceRow.instanceId).Nodup)
    (keep : InstanceRow → Bool) : inOrder (rows.filter keep) = (inOrder rows).filter keep := by
  have keptKeyed : ((rows.filter keep).map InstanceRow.instanceId).Nodup :=
    keyed.sublist (List.filter_sublist.map _)
  refine List.Perm.eq_of_pairwise ?_ (strict_inOrder keptKeyed)
    ((strict_inOrder keyed).filter keep) ?_
  · intro one other _ _ below above
    exact absurd below (lt_asymm above)
  · exact (List.mergeSort_perm _ _).trans ((List.mergeSort_perm _ _).symm.filter keep)

theorem selectRows_spec (size : InstanceRow → Nat) (encoded : Nat) (rows : List InstanceRow) :
    ∃ rest, rows = (selectRows size encoded rows).1 ++ rest ∧
      ((selectRows size encoded rows).2 = false ↔ rest = []) := by
  induction rows generalizing encoded with
  | nil => exact ⟨[], rfl, iff_of_true rfl rfl⟩
  | cons row rest ih =>
    unfold selectRows
    split
    · exact ⟨row :: rest, rfl, iff_of_false nofun (List.cons_ne_nil _ _)⟩
    · obtain ⟨left, split, more⟩ := ih (encoded + size row)
      exact ⟨left, congrArg (row :: ·) split, more⟩

theorem selectRows_ne_nil {size : InstanceRow → Nat} (some_ : rows ≠ [])
    (fits : ∀ row ∈ rows, size row ≤ MAX_INSTANCE_PAGE_BYTES) :
    (selectRows size 0 rows).1 ≠ [] := by
  cases rows with
  | nil => exact absurd rfl some_
  | cons row rest =>
    have small := fits row List.mem_cons_self
    rw [selectRows, if_neg (by omega)]
    exact List.cons_ne_nil _ _

/-- **A page is the beginning of what remains, within the count; it is all of it, or it is not empty and
its last row's place is the token.** -/
theorem answerPage_spec {size : InstanceRow → Nat} {remaining : List InstanceRow} {count : Nat}
    (positive : 0 < count) (fits : ∀ row ∈ remaining, size row ≤ MAX_INSTANCE_PAGE_BYTES) :
    ∃ page rest, remaining = page ++ rest ∧ page.length ≤ count ∧
      (rest = [] ∧ answerPage codec size (remaining.take count) (count < remaining.length) =
        .ok (page, "") ∨ rest ≠ [] ∧ ∃ front last, page = front ++ [last] ∧
          answerPage codec size (remaining.take count) (count < remaining.length) =
            .ok (page, encodeInstanceCursor codec last.cursor)) := by
  obtain ⟨left, split, all⟩ := selectRows_spec size 0 (remaining.take count)
  have first :
      ((remaining.take count).head?.any fun row => MAX_INSTANCE_PAGE_BYTES < size row) = false := by
    cases found : (remaining.take count).head? with
    | none => rfl
    | some row =>
      have member := List.mem_of_mem_take (List.mem_of_head? found)
      simpa using fits row member
  have whole : remaining = (selectRows size 0 (remaining.take count)).1 ++
    (left ++ remaining.drop count) := by
    rw [← List.append_assoc, ← split, List.take_append_drop]
  have short : (selectRows size 0 (remaining.take count)).1.length ≤ count := by
    have length := congrArg List.length split
    rw [List.length_append, List.length_take] at length
    omega
  refine ⟨_, _, whole, short, ?_⟩
  have taken : remaining ≠ [] → (selectRows size 0 (remaining.take count)).1 ≠ [] := by
    intro some_
    refine selectRows_ne_nil (fun none_ => ?_) fun row member =>
      fits row (List.mem_of_mem_take member)
    exact (List.take_eq_nil_iff.mp none_).elim positive.ne' some_
  unfold answerPage
  rw [first]
  generalize selectRows size 0 (remaining.take count) = selection at split all whole taken ⊢
  obtain ⟨selected, more⟩ := selection
  by_cases done : more = false ∧ remaining.length ≤ count
  · obtain ⟨rfl, few⟩ := done
    refine .inl ⟨?_, ?_⟩
    · rw [all.mp rfl, List.drop_eq_nil_of_le few]
      rfl
    · simp [Nat.not_lt.mpr few]
  · have unfinished : left ++ remaining.drop count ≠ [] := by
      intro none_
      obtain ⟨noneLeft, noneDropped⟩ := List.append_eq_nil_iff.mp none_
      exact done ⟨all.mpr noneLeft, List.drop_eq_nil_iff.mp noneDropped⟩
    have someRemain : remaining ≠ [] := by
      rw [whole]
      exact List.append_ne_nil_of_right_ne_nil _ unfinished
    obtain ⟨front, last, rfl⟩ := List.eq_nil_or_concat selected |>.resolve_left (taken someRemain)
    refine .inr ⟨unfinished, front, last, List.concat_eq_append, ?_⟩
    have moreRows : (decide (count < remaining.length) || more) = true := by
      cases more with
      | true => simp
      | false =>
        have many : count < remaining.length := by
          by_contra few
          exact done ⟨rfl, Nat.not_lt.mp few⟩
        simp [many]
    simp [moreRows]

/-! ### The whole walk -/

namespace Inventory

variable {inventory : Inventory} {labels : Labels} {sizes : Nat → InstanceRow → Nat}
  {request : ListInstancesRequest}

def matching (inventory : Inventory) (labels : Labels) (request : ListInstancesRequest) :
    List InstanceRow :=
  inOrder (inventory.rows.filter fun row => request.asksFor labels row)

def remaining (inventory : Inventory) (labels : Labels) (request : ListInstancesRequest)
    (cursor : Option InstancePageCursor) : List InstanceRow :=
  (inventory.matching labels request).filter fun row => cursor.all fun cursor =>
    cursor.key < row.key

variable {row : InstanceRow}

theorem mem_matching :
    row ∈ inventory.matching labels request ↔ row ∈ inventory.rows ∧
    request.asksFor labels row = true := by
  rw [matching, mem_inOrder, List.mem_filter]

theorem strict_matching : (inventory.matching labels request).Pairwise fun left right =>
    left.key < right.key :=
  strict_inOrder (inventory.keyed.sublist (List.filter_sublist.map _))

variable {cursor : Option InstancePageCursor}

theorem mem_rows_of_remaining (member : row ∈ inventory.remaining labels request cursor) :
    row ∈ inventory.rows :=
  (mem_matching.mp (List.mem_filter.mp member).1).1

theorem strict_remaining (cursor : Option InstancePageCursor) :
    (inventory.remaining labels request cursor).Pairwise fun left right => left.key < right.key :=
  strict_matching.filter _

theorem remaining_after {before after : List InstanceRow} {last : InstanceRow}
    (split : inventory.remaining labels request cursor = before ++ last :: after) :
    inventory.remaining labels request (some last.cursor) = after := by
  have reached : (cursor.all fun cursor => cursor.key < last.key) = true := by
    have member : last ∈ inventory.remaining labels request cursor := by
      rw [split]
      exact List.mem_append_right _ List.mem_cons_self
    exact (List.mem_filter.mp member).2
  have further : inventory.remaining labels request (some last.cursor) =
      (inventory.remaining labels request cursor).filter fun row => last.key < row.key := by
    rw [remaining, remaining, List.filter_filter]
    refine List.filter_congr fun row _ => ?_
    by_cases above : last.key < row.key
    · have both : (cursor.all fun cursor => cursor.key < row.key) = true := by
        cases cursor with
        | none => rfl
        | some cursor => exact decide_eq_true ((of_decide_eq_true reached).trans above)
      simp only [both, Bool.and_true]
      rfl
    · have not_ : decide (last.key < row.key) = false := decide_eq_false above
      simp only [not_, Bool.false_and]
      exact not_
  have strict := @strict_remaining inventory labels request cursor
  rw [split, List.pairwise_append, List.pairwise_cons] at strict
  obtain ⟨-, ⟨lastBefore, -⟩, beforeLast⟩ := strict
  have none_ : before.filter (fun row => last.key < row.key) = [] := by
    refine List.filter_eq_nil_iff.mpr fun row member above => ?_
    exact lt_asymm (of_decide_eq_true above) (beforeLast row member last List.mem_cons_self)
  rw [further, split, List.filter_append, none_, List.nil_append, List.filter_cons_of_neg (by simp)]
  exact List.filter_eq_self.mpr fun row member => decide_eq_true (lastBefore row member)

variable {token : String}

theorem listInstances_eq {size : InstanceRow → Nat} (positive : 0 < request.pageSize)
    (bounded : request.pageSize ≤ MAX_INSTANCE_PAGE_SIZE)
    (decoded : decodeInstanceCursor codec token = .ok cursor) :
    listInstances codec inventory.rows labels size { request with pageToken := token } =
      answerPage codec size ((inventory.remaining labels request cursor).take request.pageSize)
        (request.pageSize < (inventory.remaining labels request cursor).length) := by
  have rows : inOrder (inventory.rows.filter fun row => request.asksFor labels row &&
      cursor.all fun cursor => cursor.key < row.key) = inventory.remaining labels
      request cursor := by
    rw [remaining, matching, inOrder_filter inventory.keyed, inOrder_filter inventory.keyed,
      List.filter_filter]
    refine List.filter_congr fun row _ => ?_
    rw [Bool.and_comm]
  unfold listInstances
  simp only [positive.ne', if_false, Nat.not_lt.mpr bounded, decoded]
  exact congrArg (fun rows => answerPage codec size (List.take request.pageSize rows)
    (decide (request.pageSize < rows.length))) rows

def Readable (inventory : Inventory) : Prop :=
  ∀ row ∈ inventory.rows, (∃ other ∈ inventory.rows, row.key < other.key) →
    isTokenId row.instanceId = true

theorem decode_cursor (member : row ∈ inventory.rows) :
    if isTokenId row.instanceId then
      decodeInstanceCursor codec (encodeInstanceCursor codec row.cursor) = .ok (some row.cursor)
    else ∃ error, decodeInstanceCursor codec (encodeInstanceCursor codec row.cursor) =
      .error error :=
  @decode_encodeInstanceCursor codec row.cursor (inventory.timed row member).1
    (inventory.timed row member).2

theorem exists_walk (readable : inventory.Readable) (positive : 0 < request.pageSize)
    (bounded : request.pageSize ≤ MAX_INSTANCE_PAGE_SIZE)
    (fits : ∀ call, ∀ row ∈ inventory.rows, sizes call row ≤ MAX_INSTANCE_PAGE_BYTES)
    (call : Nat) (token : String)
    (cursor : Option InstancePageCursor) (decoded : decodeInstanceCursor codec token = .ok cursor) :
    ∃ pages, Walk codec inventory.rows labels sizes request call token pages ∧
      pages.flatten = inventory.remaining labels request cursor := by
  -- The induction is on how much remains, which each page shortens.
  induction length : (inventory.remaining labels request cursor).length using Nat.strongRecOn
    generalizing call token cursor with
  | ind count ih =>
    obtain ⟨page, rest, split, -, ⟨none_, answered⟩ | ⟨some_, front, last, rfl, answered⟩⟩ :=
      @answerPage_spec codec (sizes call) (inventory.remaining labels request cursor)
        request.pageSize positive fun row member => fits call row (mem_rows_of_remaining member)
    · rw [← listInstances_eq positive bounded decoded] at answered
      refine ⟨[page], .last answered, ?_⟩
      rw [split, none_]
      rfl
    · rw [← listInstances_eq positive bounded decoded] at answered
      rw [List.append_assoc, List.singleton_append] at split
      have strict := @strict_remaining inventory labels request cursor
      rw [split, List.pairwise_append, List.pairwise_cons] at strict
      obtain ⟨next, later, rfl⟩ := List.exists_cons_of_ne_nil some_
      have both : last ∈ inventory.remaining labels request cursor ∧
          next ∈ inventory.remaining labels request cursor := by
        rw [split]
        simp
      have lastIn := mem_rows_of_remaining both.1
      have nextIn := mem_rows_of_remaining both.2
      have above : last.key < next.key := strict.2.1.1 next List.mem_cons_self
      have decodedNext := @decode_cursor codec inventory last lastIn
      rw [if_pos (readable last lastIn ⟨next, nextIn, above⟩)] at decodedNext
      have shorter : (inventory.remaining labels request (some last.cursor)).length < count := by
        rw [remaining_after split, ← length, split]
        simp
        omega
      obtain ⟨pages, walk, flat⟩ := ih _ shorter (call + 1) _ _ decodedNext rfl
      refine ⟨(front ++ [last]) :: pages, .more answered (encodeInstanceCursor_ne_empty _) walk, ?_⟩
      rw [List.flatten_cons, flat, remaining_after split, split]
      simp

theorem decodes_of_walk {rows : List InstanceRow} {call : Nat} {pages : List (List InstanceRow)}
    (walk : Walk codec rows labels sizes request call token pages) :
    ∃ cursor, decodeInstanceCursor codec token = .ok cursor := by
  have answered : ∃ answer,
      listInstances codec rows labels (sizes call) { request with pageToken := token } =
      .ok answer := by
    cases walk with
    | last answered => exact ⟨_, answered⟩
    | more answered further rest => exact ⟨_, answered⟩
  obtain ⟨answer, answered⟩ := answered
  cases decoded : decodeInstanceCursor codec token with
  | ok cursor => exact ⟨cursor, rfl⟩
  | error cause =>
    unfold listInstances at answered
    rw [decoded] at answered
    dsimp only at answered
    split at answered
    · cases answered
    · split at answered <;> cases answered

theorem no_walk (unread : isTokenId row.instanceId = false) (single : request.pageSize = 1)
    (fits : ∀ call, ∀ row ∈ inventory.rows, sizes call row ≤ MAX_INSTANCE_PAGE_BYTES) {call : Nat}
    {pages : List (List InstanceRow)}
    (walk : Walk codec inventory.rows labels sizes request call token pages)
    (decoded : decodeInstanceCursor codec token = .ok cursor)
    (ahead : row ∈ (inventory.remaining labels request cursor).dropLast) : False := by
  have positive : 0 < request.pageSize := by omega
  have bounded : request.pageSize ≤ MAX_INSTANCE_PAGE_SIZE := by
    rw [single]
    decide
  induction walk generalizing cursor with
  | @last call token page answered =>
    obtain ⟨shown, rest, split, short, ⟨none_, given⟩ | ⟨some_, front, last, rfl, given⟩⟩ :=
      @answerPage_spec codec (sizes call) (inventory.remaining labels request cursor)
        request.pageSize positive fun row member => fits call row (mem_rows_of_remaining member)
    · have few : (inventory.remaining labels request cursor).dropLast.length = 0 := by
        rw [split, none_, List.append_nil, List.length_dropLast]
        omega
      rw [List.length_eq_zero_iff.mp few] at ahead
      cases ahead
    · rw [← listInstances_eq positive bounded decoded, answered] at given
      have token := (Prod.mk.inj (Except.ok.inj given)).2
      exact encodeInstanceCursor_ne_empty _ token.symm
  | @more call token following page pages answered further rest ih =>
    obtain ⟨shown, later, split, short, ⟨none_, given⟩ | ⟨some_, front, last, rfl, given⟩⟩ :=
      @answerPage_spec codec (sizes call) (inventory.remaining labels request cursor)
        request.pageSize positive fun row member => fits call row (mem_rows_of_remaining member)
    · rw [← listInstances_eq positive bounded decoded, answered] at given
      exact further (Prod.mk.inj (Except.ok.inj given)).2
    · rw [← listInstances_eq positive bounded decoded, answered] at given
      obtain ⟨-, rfl⟩ := Prod.mk.inj (Except.ok.inj given)
      have alone : front = [] := by
        rw [single, List.length_append, List.length_singleton] at short
        exact List.length_eq_zero_iff.mp (by omega)
      subst alone
      rw [List.nil_append, List.singleton_append] at split
      have lastIn : last ∈ inventory.rows := by
        refine mem_rows_of_remaining (?_ : last ∈ inventory.remaining labels request cursor)
        rw [split]
        exact List.mem_cons_self
      have token := @decode_cursor codec inventory last lastIn
      obtain ⟨read, decodedNext⟩ := decodes_of_walk rest
      split at token
      · next carried =>
          rw [split, List.dropLast_cons_of_ne_nil some_] at ahead
          have distinct : row ≠ last := by
            rintro rfl
            rw [unread] at carried
            cases carried
          refine ih token ?_
          rw [@remaining_after inventory labels request cursor [] later last split]
          exact (List.mem_cons.mp ahead).resolve_left distinct
      · obtain ⟨error, failed⟩ := token
        rw [failed] at decodedNext
        cases decodedNext

theorem mem_dropLast_of_lt {rows : List InstanceRow} {other : InstanceRow}
    (strict : rows.Pairwise fun left right => left.key < right.key) (member : row ∈ rows)
    (otherIn : other ∈ rows) (before : row.key < other.key) : row ∈ rows.dropLast := by
  rcases List.eq_nil_or_concat rows with rfl | ⟨front, last, rfl⟩
  · cases member
  · rw [List.concat_eq_append] at strict member otherIn ⊢
    rw [List.dropLast_concat]
    have front_ := (List.pairwise_append.mp strict).2.2
    rcases List.mem_append.mp member with there | isLast
    · exact there
    · rw [List.mem_singleton.mp isLast] at before
      rcases List.mem_append.mp otherIn with otherThere | otherLast
      · exact absurd before (lt_asymm (front_ other otherThere last (List.mem_singleton_self _)))
      · rw [List.mem_singleton.mp otherLast] at before
        exact absurd before (lt_irrefl _)

/-- The walk of a request from the beginning gives the rows it asks for, in order. -/
def Walks (codec : TokenCodec) (inventory : Inventory) (labels : Labels)
    (sizes : Nat → InstanceRow → Nat) (request : ListInstancesRequest) : Prop :=
  ∃ pages, Walk codec inventory.rows labels sizes request 0 "" pages ∧
    (pages.flatten.Pairwise fun left right => left.key < right.key) ∧
    ∀ row, row ∈ pages.flatten ↔ row ∈ inventory.rows ∧ request.asksFor labels row = true

/-- Row by row and without a filter, rows cannot be walked of which one but the last has a token that cannot
be read. -/
theorem not_walks {other : InstanceRow} (unread : isTokenId row.instanceId = false)
    (member : row ∈ inventory.rows) (otherIn : other ∈ inventory.rows)
    (before : row.key < other.key) :
    ¬inventory.Walks codec labels (fun _ _ => 0) ⟨[], [], 1, ""⟩ := by
  rintro ⟨pages, walk, -⟩
  have all {row : InstanceRow} (member : row ∈ inventory.rows) :
      row ∈ inventory.remaining labels ⟨[], [], 1, ""⟩ none :=
    List.mem_filter.mpr ⟨mem_matching.mpr ⟨member, rfl⟩, rfl⟩
  exact no_walk unread rfl (fun _ _ _ => Nat.zero_le _) walk rfl
    (mem_dropLast_of_lt (strict_remaining none) (all member) (all otherIn) before)

/-- **A set of rows can be walked, whatever the filter and the page size and whatever the answers' sizes
within the budget, exactly if every row but the last has an id of 26 digits and capital letters.** -/
theorem pages_complete_iff (codec : TokenCodec) (inventory : Inventory) (labels : Labels) :
    (∀ (request : ListInstancesRequest) (sizes : Nat → InstanceRow → Nat), 1 ≤ request.pageSize →
      request.pageSize ≤ 256 →
        (∀ call, ∀ row ∈ inventory.rows, sizes call row ≤ MAX_INSTANCE_PAGE_BYTES) →
      inventory.Walks codec labels sizes request) ↔
    ∀ row ∈ inventory.rows, (∃ other ∈ inventory.rows, row.key < other.key) →
      isTokenId row.instanceId = true := by
  constructor
  · intro walks row member above
    obtain ⟨other, otherIn, before⟩ := above
    by_contra unread
    exact not_walks (Bool.eq_false_iff.mpr unread) member otherIn before
      (walks ⟨[], [], 1, ""⟩ (fun _ _ => 0) le_rfl (by decide) fun _ _ _ => Nat.zero_le _)
  · intro readable request sizes positive bounded fits
    obtain ⟨pages, walk, flat⟩ := exists_walk readable positive bounded fits 0 "" none rfl
    have whole : inventory.remaining labels request none = inventory.matching labels request :=
      List.filter_eq_self.mpr fun _ _ => rfl
    rw [whole] at flat
    refine ⟨pages, walk, ?_, fun row => ?_⟩
    · rw [flat]
      exact strict_matching
    · rw [flat, mem_matching]

/-- **A node forks an instance into an id its own tokens cannot carry, and its rows cannot be walked.** -/
theorem forked_row_stops_walk : ∃ (system : System) (inventory : Inventory),
    System.reach .plain freshVersions (forkInto "../f") = some system ∧
      inventory.rows = system.world.journal.listInstances ∧
      ∀ codec labels, ¬inventory.Walks codec labels (fun _ _ => 0) ⟨[], [], 1, ""⟩ := by
  have reachable : ((System.reach .plain freshVersions (forkInto "../f")).any fun system =>
      (system.world.journal.listInstances.map InstanceRow.instanceId).Nodup ∧
      (∀ row ∈ system.world.journal.listInstances, -2 ^ 63 ≤ row.createdAtMs ∧
        row.createdAtMs < 2 ^ 63) ∧
      ∃ row ∈ system.world.journal.listInstances, isTokenId row.instanceId = false ∧
        ∃ other ∈ system.world.journal.listInstances, row.key < other.key) = true := by
    decide +kernel
  obtain ⟨system, reached, keyed, timed, row, member, unread, other, otherIn, before⟩ :=
    exists_of_any reachable
  exact ⟨system, ⟨_, keyed, timed⟩, reached, rfl, fun _ _ => not_walks unread member otherIn before⟩

end Inventory

end Barista.Node
