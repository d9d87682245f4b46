import Mathlib.Data.List.Induction
import Silhouette.Asset.Json
import Silhouette.Proofs.JsonText
import Silhouette.Proofs.StorageKey
import Silhouette.Proofs.Utf8

/-! The text of an asset id. Reading takes exactly the texts of 64 hexadecimal digits and forgets their case; for
every other text it tells the first fault: an odd number of bytes, then the first byte that is no digit, then a
wrong length. Writing undoes it, and since every digit is written by a letter that stands in the order of its
value, ids are ordered as their texts are. -/
namespace Silhouette

namespace Text.Hex

/-- The byte of a hexadecimal digit, in either case. -/
def isDigitByte (b : UInt8) : Bool := (Char.ofNat b.toNat).isHexDigit

variable {bytes front back : List UInt8} {b : UInt8}

private theorem digit_table : ∀ n < 256, (value? (UInt8.ofNat n)).isSome = isDigitByte (UInt8.ofNat n) ∧
    (isDigitByte (UInt8.ofNat n) = true → n < 128) ∧
    ∀ v ∈ value? (UInt8.ofNat n), v.toNat < 16 ∧ digit v.toNat = lowerChar (Char.ofNat n) := by
  decide +kernel

theorem ascii_of_digit (known : isDigitByte b = true) : b.toNat < 128 := by
  have table := (digit_table b.toNat b.toNat_lt).2.1
  rw [UInt8.ofNat_toNat] at table
  exact table known

/-- A digit has a value, which is written as that digit in lower case. -/
theorem value?_of_digit (known : isDigitByte b = true) :
    ∃ v, value? b = some v ∧ v.toNat < 16 ∧ digit v.toNat = lowerChar (Char.ofNat b.toNat) := by
  obtain ⟨valued, -, written⟩ := digit_table b.toNat b.toNat_lt
  rw [UInt8.ofNat_toNat] at valued written
  rw [known] at valued
  obtain ⟨v, value⟩ := Option.isSome_iff_exists.mp valued
  exact ⟨v, value, written v value⟩

theorem value?_of_stray (stray : isDigitByte b = false) : value? b = none := by
  have valued := (digit_table b.toNat b.toNat_lt).1
  rw [UInt8.ofNat_toNat, stray] at valued
  exact Option.isNone_iff_eq_none.mp (by simpa using valued)

private theorem halves_of_pair {high low : UInt8} (first : high.toNat < 16) (second : low.toNat < 16) :
    (high * 16 + low).toNat / 16 = high.toNat ∧ (high * 16 + low).toNat % 16 = low.toNat := by
  simp only [UInt8.toNat_add, UInt8.toNat_mul, UInt8.reduceToNat]
  omega

/-- Digits are read as the bytes that are written as these digits in lower case. -/
theorem decodePairs_digits (even : bytes.length % 2 = 0)
    (digits : ∀ b ∈ bytes, isDigitByte b = true) (position : Nat) :
    ∃ values, decodePairs position bytes = .ok values ∧
      encodeChars values = bytes.map fun b => lowerChar (Char.ofNat b.toNat) := by
  fun_induction decodePairs position bytes with
  | case1 => exact ⟨[], rfl, rfl⟩
  | case2 => cases even
  | case3 position a b rest stray =>
    obtain ⟨v, value, -⟩ := value?_of_digit (digits a List.mem_cons_self)
    rw [stray] at value
    cases value
  | case4 position a b rest high value stray =>
    obtain ⟨v, value, -⟩ := value?_of_digit (digits b (.tail _ List.mem_cons_self))
    rw [stray] at value
    cases value
  | case5 position a b rest high first low second ih =>
    obtain ⟨_, value, highSmall, highText⟩ := value?_of_digit (digits a List.mem_cons_self)
    cases first.symm.trans value
    obtain ⟨_, value, lowSmall, lowText⟩ := value?_of_digit (digits b (.tail _ List.mem_cons_self))
    cases second.symm.trans value
    have rest_even : rest.length % 2 = 0 := by
      simp only [List.length_cons] at even
      omega
    obtain ⟨values, read, written⟩ := ih rest_even
      fun d member => digits d (.tail _ (.tail _ member))
    obtain ⟨upper, lower⟩ := halves_of_pair highSmall lowSmall
    refine ⟨(high * 16 + low) :: values, by rw [read]; rfl, ?_⟩
    rw [encodeChars, upper, lower, highText, lowText, written]
    rfl

/-- The first byte that is no digit is told, with its place. -/
theorem decodePairs_stray (even : (front ++ b :: back).length % 2 = 0)
    (digits : ∀ d ∈ front, isDigitByte d = true) (stray : isDigitByte b = false) (position : Nat) :
    decodePairs position (front ++ b :: back) =
      .error (.notDigit (Char.ofNat b.toNat) (position + front.length)) := by
  induction front using List.twoStepInduction generalizing position with
  | nil =>
    cases back with
    | nil => cases even
    | cons c back =>
      simp only [List.nil_append, decodePairs, value?_of_stray stray]
      rfl
  | singleton d =>
    obtain ⟨v, value, -⟩ := value?_of_digit (digits d List.mem_cons_self)
    simp only [List.cons_append, List.nil_append, decodePairs, value, value?_of_stray stray]
    rfl
  | cons_cons d e front ih =>
    obtain ⟨high, first, -⟩ := value?_of_digit (digits d List.mem_cons_self)
    obtain ⟨low, second, -⟩ := value?_of_digit (digits e (.tail _ List.mem_cons_self))
    have rest_even : (front ++ b :: back).length % 2 = 0 := by
      simp only [List.cons_append, List.length_cons] at even
      omega
    have later := ih rest_even (fun c member => digits c (.tail _ (.tail _ member))) (position + 2)
    have place : position + 2 + front.length = position + (front.length + 1 + 1) := by omega
    simp only [List.cons_append, decodePairs, first, second, later, List.length_cons, place]
    rfl

private theorem ascii_of_isHexDigit {c : Char} (known : c.isHexDigit = true) : c.toNat < 128 := by
  simp only [Char.isHexDigit, Char.isDigit, Bool.or_eq_true, Bool.and_eq_true, decide_eq_true_eq,
    UInt32.le_iff_toNat_le, ge_iff_le] at known
  have number : c.toNat = c.val.toNat := rfl
  rcases known with (⟨-, high⟩ | ⟨-, high⟩) | ⟨-, high⟩ <;> simp at high <;> omega

/-- A text has digits only just if its bytes are those of digits. -/
theorem digit_bytes_iff {s : String} : (∀ b ∈ Utf8.encode s, isDigitByte b = true) ↔
    ∀ c ∈ s.toList, c.isHexDigit = true := by
  constructor
  · intro digits c member
    rw [Utf8.toList_of_ascii fun b here => ascii_of_digit (digits b here)] at member
    obtain ⟨b, here, rfl⟩ := List.mem_map.mp member
    exact digits b here
  · intro digits b member
    rw [Utf8.encode_eq_flatMap, List.mem_flatMap] at member
    obtain ⟨c, here, written⟩ := member
    have known := digits c here
    have spelled := Utf8.encodeChar_ascii c.toNat (ascii_of_isHexDigit known)
    rw [Char.ofNat_toNat] at spelled
    rw [spelled, List.mem_singleton] at written
    have number : (UInt8.ofNat c.toNat).toNat = c.toNat := by
      have small := ascii_of_isHexDigit known
      rw [UInt8.toNat_ofNat', Nat.mod_eq_of_lt (by omega)]
    rw [written, isDigitByte, number, Char.ofNat_toNat]
    exact known

/-! ## Writing -/

private theorem digit_written : ∀ n < 16, (digit n).isHexDigit = true ∧ lowerChar (digit n) = digit n := by
  decide

private theorem digit_ordered : ∀ m < 16, ∀ n < 16, m < n → digit m < digit n := by decide

/-- What is written has digits only, all in lower case. -/
theorem encodeChars_digits (bytes : List UInt8) :
    ∀ c ∈ encodeChars bytes, c.isHexDigit = true ∧ lowerChar c = c := by
  induction bytes with
  | nil => exact List.forall_mem_nil _
  | cons b rest ih =>
    have small := b.toNat_lt
    exact List.forall_mem_cons.mpr ⟨digit_written _ (by omega),
      List.forall_mem_cons.mpr ⟨digit_written _ (by omega), ih⟩⟩

theorem encodeChars_take (n : Nat) (bytes : List UInt8) :
    encodeChars (bytes.take n) = (encodeChars bytes).take (2 * n) := by
  induction n generalizing bytes with
  | zero => rfl
  | succ n ih =>
    cases bytes with
    | nil => rfl
    | cons b rest => simp only [List.take_succ_cons, encodeChars, ih, Nat.mul_succ]

/-- A smaller byte is written by a smaller pair of digits, whatever follows. -/
private theorem encodeChars_cons_lt {a : UInt8} (less : a < b) (front back : List UInt8) :
    encodeChars (a :: front) < encodeChars (b :: back) := by
  have small := b.toNat_lt
  have number : a.toNat < b.toNat := less
  simp only [encodeChars, List.cons_lt_cons_iff]
  rcases Nat.lt_or_ge (a.toNat / 16) (b.toNat / 16) with high | same
  · exact .inl (digit_ordered _ (by omega) _ (by omega) high)
  · have upper : a.toNat / 16 = b.toNat / 16 := by omega
    refine .inr ⟨congrArg digit upper, .inl ?_⟩
    exact digit_ordered _ (by omega) _ (by omega) (by omega)

end Text.Hex

namespace AssetId

open Text

/-! ## The order of ids -/

/-- Byte strings are ordered as what they are written as. -/
theorem compareBytes_eq (as bs : List UInt8) :
    compareBytes as bs = compare (Hex.encode as) (Hex.encode bs) := by
  have order : (compareBytes as bs = .lt → Hex.encodeChars as < Hex.encodeChars bs) ∧
      (compareBytes as bs = .gt → Hex.encodeChars bs < Hex.encodeChars as) ∧
      (compareBytes as bs = .eq → as = bs) := by
    fun_induction compareBytes as bs with
    | case1 => exact ⟨nofun, nofun, fun _ => rfl⟩
    | case2 b rest => exact ⟨fun _ => List.nil_lt_cons _ _, nofun, nofun⟩
    | case3 a rest => exact ⟨nofun, fun _ => List.nil_lt_cons _ _, nofun⟩
    | case4 a as b bs less => exact ⟨fun _ => Hex.encodeChars_cons_lt less _ _, nofun, nofun⟩
    | case5 a as b bs _ less => exact ⟨nofun, fun _ => Hex.encodeChars_cons_lt less _ _, nofun⟩
    | case6 a as b bs notLess notGreater ih =>
      obtain rfl := UInt8.le_antisymm (UInt8.not_lt.mp notGreater) (UInt8.not_lt.mp notLess)
      refine ⟨fun less => ?_, fun greater => ?_, fun same => by rw [ih.2.2 same]⟩
      · simp only [Hex.encodeChars, List.cons_lt_cons_self]
        exact ih.1 less
      · simp only [Hex.encodeChars, List.cons_lt_cons_self]
        exact ih.2.1 greater
  have texts : ∀ {front back : List UInt8}, Hex.encodeChars front < Hex.encodeChars back →
      Hex.encode front < Hex.encode back := by
    intro front back less
    rwa [String.lt_iff, Hex.encode, Hex.encode, String.toList_ofList, String.toList_ofList]
  show _ = compareOfLessAndEq (Hex.encode as) (Hex.encode bs)
  unfold compareOfLessAndEq
  cases verdict : compareBytes as bs with
  | lt => rw [if_pos (texts (order.1 verdict))]
  | eq => rw [order.2.2 verdict, if_neg (String.lt_irrefl _), if_pos rfl]
  | gt =>
    have less := texts (order.2.1 verdict)
    rw [if_neg (String.lt_asymm less), if_neg]
    intro same
    rw [same] at less
    exact String.lt_irrefl _ less

/-! ## Reading -/

/-- What reading a text as an id comes to: the id that is written as the text in lower case, or the first of
three faults. Places and lengths are counted in bytes. -/
inductive Reading (s : String) : Except AssetIdError AssetId → Prop where
  | id {id : AssetId} (digits : ∀ c ∈ s.toList, c.isHexDigit = true) (whole : s.toList.length = 64)
      (text : id.text = lower s) : Reading s (.ok id)
  | odd (odd : (Utf8.encode s).length % 2 = 1) : Reading s (.error (.hexDecode .oddLength))
  | stray (even : (Utf8.encode s).length % 2 = 0) (parts : Utf8.encode s = front ++ b :: back)
      (digits : ∀ d ∈ front, Hex.isDigitByte d = true) (stray : Hex.isDigitByte b = false) :
      Reading s (.error (.hexDecode (.notDigit (Char.ofNat b.toNat) front.length)))
  | length (even : (Utf8.encode s).length % 2 = 0) (digits : ∀ c ∈ s.toList, c.isHexDigit = true)
      (other : (Utf8.encode s).length ≠ 64) :
      Reading s (.error (.invalidLength ((Utf8.encode s).length / 2)))

variable {s : String} {result : Except AssetIdError AssetId}

/-- Digits in pairs are the bytes that are written as these digits in lower case. -/
private theorem decode_digits (even : (Utf8.encode s).length % 2 = 0)
    (digits : ∀ c ∈ s.toList, c.isHexDigit = true) : ∃ values, Hex.decode s = .ok values ∧
      2 * values.length = (Utf8.encode s).length ∧ Hex.encode values = lower s := by
  have known := Hex.digit_bytes_iff.mpr digits
  obtain ⟨values, read, written⟩ := Hex.decodePairs_digits even known 0
  refine ⟨values, ?_, ?_, ?_⟩
  · have not_odd : ¬ (Utf8.encode s).length % 2 = 1 := by omega
    exact (if_neg not_odd).trans read
  · rw [← Hex.length_encodeChars, written, List.length_map]
  · rw [Hex.encode, written, lower,
      Utf8.toList_of_ascii fun b member => Hex.ascii_of_digit (known b member), List.map_map]
    rfl

theorem length_of_digits (digits : ∀ c ∈ s.toList, c.isHexDigit = true) :
    s.toList.length = (Utf8.encode s).length := by
  have known := Hex.digit_bytes_iff.mpr digits
  rw [Utf8.toList_of_ascii fun b member => Hex.ascii_of_digit (known b member), List.length_map]

theorem Reading.parse_eq (reading : Reading s result) :
    parse s = result := by
  cases reading with
  | id digits whole text =>
    have length := length_of_digits digits
    obtain ⟨values, read, size, written⟩ := decode_digits (by omega) digits
    have enough : values.length = 32 := by omega
    rw [parse, read]
    simp only [ofBytes, dif_pos enough]
    exact congrArg _ (text_injective (written.trans text.symm))
  | odd odd =>
    have read : Hex.decode s = .error .oddLength := if_pos odd
    rw [parse, read]
  | stray even parts digits stray =>
    have read : Hex.decode s = Hex.decodePairs 0 (Utf8.encode s) := if_neg (by
      change ¬ (Utf8.encode s).length % 2 = 1
      omega)
    rw [parts] at even read
    rw [parse, read, Hex.decodePairs_stray even digits stray, Nat.zero_add]
  | length even digits other =>
    obtain ⟨values, read, size, -⟩ := decode_digits even digits
    have wrong : values.length ≠ 32 := by omega
    have half : values.length = (Utf8.encode s).length / 2 := by omega
    rw [parse, read, ← half]
    exact dif_neg wrong

/-- Every text comes to something. -/
theorem exists_reading (s : String) : ∃ result, Reading s result := by
  rcases Nat.mod_two_eq_zero_or_one (Utf8.encode s).length with even | odd
  · cases found : (Utf8.encode s).find? fun b => !Hex.isDigitByte b with
    | some b =>
      obtain ⟨unknown, front, back, parts, before⟩ := List.find?_eq_some_iff_append.mp found
      exact ⟨_, .stray even parts (by simpa using before) (by simpa using unknown)⟩
    | none =>
      have digits := (Hex.digit_bytes_iff (s := s)).mp (by simpa using found)
      by_cases whole : (Utf8.encode s).length = 64
      · obtain ⟨values, -, size, written⟩ := decode_digits even digits
        refine ⟨.ok ⟨values, by omega⟩, .id digits ?_ written⟩
        rw [length_of_digits digits, whole]
      · exact ⟨_, .length even digits whole⟩
  · exact ⟨_, .odd odd⟩

theorem parse_eq_iff : parse s = result ↔ Reading s result := by
  constructor
  · rintro rfl
    obtain ⟨result, reading⟩ := exists_reading s
    rw [reading.parse_eq]
    exact reading
  · exact Reading.parse_eq

theorem parse_text (id : AssetId) : parse id.text = .ok id := by
  have written := Hex.encodeChars_digits id.bytes
  rw [← toList_text] at written
  refine parse_eq_iff.mpr (.id (fun c member => (written c member).1) ?_ ?_)
  · exact length_text id
  · rw [lower, List.map_congr_left fun c member => (written c member).2, List.map_id',
      String.ofList_toList]

/-- **Ids and their texts.** A text is read as an id just if it has 64 hexadecimal digits, of either case, and
nothing else; the id is then written as the text in lower case, and otherwise the first fault is told. Every
id is read from its text, also in JSON, its short form is the front of its text, and ids are ordered as their
texts are. -/
theorem ids_are_read_from_their_digits :
    (∀ s, (∃ id, parse s = .ok id) ↔ s.toList.length = 64 ∧ ∀ c ∈ s.toList, c.isHexDigit = true) ∧
    (∀ s result, parse s = result ↔ Reading s result) ∧
    (∀ actual, (AssetIdError.invalidLength actual).message =
      "invalid asset id length: expected 32, got " ++ toString actual) ∧
    ∀ id : AssetId, parse id.text = .ok id ∧ ofJson? id.json = some id ∧
      id.short.toList = id.text.toList.take 16 ∧
      ∀ other : AssetId, compare id other = compare id.text other.text := by
  refine ⟨fun s => ⟨?_, ?_⟩, fun s result => parse_eq_iff, fun _ => rfl, fun id => ⟨parse_text id, ?_, ?_, ?_⟩⟩
  · rintro ⟨id, read⟩
    cases parse_eq_iff.mp read with
    | id digits whole text => exact ⟨whole, digits⟩
  · rintro ⟨whole, digits⟩
    have length := length_of_digits digits
    obtain ⟨values, -, size, written⟩ := decode_digits (s := s) (by omega) digits
    exact ⟨⟨values, by omega⟩, parse_eq_iff.mpr (.id digits whole written)⟩
  · rw [ofJson?, json, Json.text_read_quote, Option.bind_some, parse_text]
    rfl
  · rw [short, Hex.encode, String.toList_ofList, toList_text, Hex.encodeChars_take]
  · intro other
    exact compareBytes_eq id.bytes other.bytes

end AssetId

end Silhouette
