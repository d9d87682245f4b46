import Silhouette.Text.Utf8

/-! Texts and their bytes. Reading takes up exactly the bytes of one character where a character was written,
so that the bytes of a text are read as that text, and bytes that no text has do not survive being read
and written again. A byte below 128 in a text is the ASCII character that it spells, and whatever bytes are
read, an ASCII character comes from the byte that spells it. -/
namespace Silhouette.Text.Utf8

/-! ## One character -/

private theorem toNat_byte {n : Nat} (small : n < 256) : (UInt8.ofNat n).toNat = n := by
  simp [UInt8.toNat_ofNat', Nat.mod_eq_of_lt small]

private theorem shape?_two {b : UInt8} (low : 0xc2 ≤ b.toNat) (high : b.toNat ≤ 0xdf) :
    shape? b = some (0x80, 0xbf, 2) := by
  unfold shape?
  rw [if_pos]
  simp only [UInt8.le_iff_toNat_le]
  exact ⟨low, high⟩

/-- No surrogate is written, and nothing in three bytes that fits in two. -/
private theorem shape?_three {b c : UInt8} {v : Nat} (long : 0x800 ≤ v) (short : v ≤ 0xffff)
    (proper : v < 0xd800 ∨ 0xdfff < v) (first : b.toNat = v / 4096 % 16 + 224)
    (second : c.toNat = v / 64 % 64 + 128) :
    ∃ low high, shape? b = some (low, high, 3) ∧ low ≤ c ∧ c ≤ high := by
  unfold shape?
  simp only [UInt8.le_iff_toNat_le, ← UInt8.toNat_inj, UInt8.reduceToNat]
  split
  · omega
  split
  · exact ⟨_, _, rfl, by simp; omega, by simp; omega⟩
  split
  · exact ⟨_, _, rfl, by simp; omega, by simp; omega⟩
  split
  · exact ⟨_, _, rfl, by simp; omega, by simp; omega⟩
  · omega

private theorem shape?_four {b c : UInt8} {v : Nat} (long : 0x10000 ≤ v) (short : v ≤ 0x10ffff)
    (first : b.toNat = v / 262144 % 8 + 240) (second : c.toNat = v / 4096 % 64 + 128) :
    ∃ low high, shape? b = some (low, high, 4) ∧ low ≤ c ∧ c ≤ high := by
  unfold shape?
  simp only [UInt8.le_iff_toNat_le, ← UInt8.toNat_inj, UInt8.reduceToNat]
  split
  · omega
  split
  · omega
  split
  · omega
  split
  · omega
  split
  · exact ⟨_, _, rfl, by simp; omega, by simp; omega⟩
  split
  · exact ⟨_, _, rfl, by simp; omega, by simp; omega⟩
  split
  · exact ⟨_, _, rfl, by simp; omega, by simp; omega⟩
  · omega

private theorem continues_byte (n : Nat) : continues (UInt8.ofNat (n % 64 + 128)) = true := by
  have small := toNat_byte (n := n % 64 + 128) (by omega)
  simp only [continues, Bool.and_eq_true, decide_eq_true_eq, UInt8.le_iff_toNat_le, small]
  simp only [UInt8.reduceToNat]
  omega

private theorem not_ascii {b : UInt8} (lead : 0x80 ≤ b.toNat) : ¬ b < 0x80 := by
  simp only [UInt8.lt_iff_toNat_lt, UInt8.reduceToNat]
  omega

private theorem decodeChars_two {b c low high : UInt8} (lead : 0x80 ≤ b.toNat)
    (known : shape? b = some (low, high, 2)) (second : low ≤ c ∧ c ≤ high) (rest : List UInt8) :
    decodeChars (b :: c :: rest) = join (b.toNat - 0xc0) [c] :: decodeChars rest := by
  rw [decodeChars, if_neg (not_ascii lead), known]
  simp [second]

private theorem decodeChars_three {b c d low high : UInt8} (lead : 0x80 ≤ b.toNat)
    (known : shape? b = some (low, high, 3)) (second : low ≤ c ∧ c ≤ high)
    (third : continues d = true) (rest : List UInt8) :
    decodeChars (b :: c :: d :: rest) = join (b.toNat - 0xe0) [c, d] :: decodeChars rest := by
  rw [decodeChars, if_neg (not_ascii lead), known]
  simp [second, third]

private theorem decodeChars_four {b c d e low high : UInt8} (lead : 0x80 ≤ b.toNat)
    (known : shape? b = some (low, high, 4)) (second : low ≤ c ∧ c ≤ high)
    (third : continues d = true) (fourth : continues e = true) (rest : List UInt8) :
    decodeChars (b :: c :: d :: e :: rest) =
      join (b.toNat - 0xf0) [c, d, e] :: decodeChars rest := by
  rw [decodeChars, if_neg (not_ascii lead), known]
  simp [second, third, fourth]

theorem decodeChars_encodeChar (c : Char) (rest : List UInt8) :
    decodeChars (String.utf8EncodeChar c ++ rest) = c :: decodeChars rest := by
  have back : Char.ofNat c.val.toNat = c := Char.ofNat_toNat c
  have proper : c.val.toNat < 0xd800 ∨ 0xdfff < c.val.toNat ∧ c.val.toNat < 0x110000 := c.valid
  unfold String.utf8EncodeChar
  generalize c.val.toNat = v at back proper
  dsimp only
  have last := toNat_byte (n := v % 64 + 128) (by omega)
  have middle := toNat_byte (n := v / 64 % 64 + 128) (by omega)
  split
  · have first := toNat_byte (n := v) (by omega)
    have ascii : UInt8.ofNat v < 0x80 := by
      simp only [UInt8.lt_iff_toNat_lt, first, UInt8.reduceToNat]
      omega
    rw [List.singleton_append, decodeChars, if_pos ascii, first, back]
  split
  · have first := toNat_byte (n := v / 64 % 32 + 192) (by omega)
    have known := shape?_two (b := UInt8.ofNat (v / 64 % 32 + 192)) (by omega) (by omega)
    have second := continues_byte v
    have whole : (v / 64 % 32 + 192 - 192) * 64 + (v % 64 + 128 - 128) = v := by omega
    simp only [continues, Bool.and_eq_true, decide_eq_true_eq] at second
    simp only [List.cons_append, List.nil_append]
    rw [decodeChars_two (by omega) known second]
    simp only [join, List.foldl, first, last, whole, back]
  split
  · have first := toNat_byte (n := v / 4096 % 16 + 224) (by omega)
    obtain ⟨low, high, known, second⟩ :=
      shape?_three (v := v) (by omega) (by omega) (by omega) first middle
    have whole : ((v / 4096 % 16 + 224 - 224) * 64 + (v / 64 % 64 + 128 - 128)) * 64 +
        (v % 64 + 128 - 128) = v := by omega
    simp only [List.cons_append, List.nil_append]
    rw [decodeChars_three (by omega) known second (continues_byte v)]
    simp only [join, List.foldl, first, middle, last, whole, back]
  · have first := toNat_byte (n := v / 262144 % 8 + 240) (by omega)
    have next := toNat_byte (n := v / 4096 % 64 + 128) (by omega)
    obtain ⟨low, high, known, second⟩ := shape?_four (v := v) (by omega) (by omega) first next
    have whole : (((v / 262144 % 8 + 240 - 240) * 64 + (v / 4096 % 64 + 128 - 128)) * 64 +
        (v / 64 % 64 + 128 - 128)) * 64 + (v % 64 + 128 - 128) = v := by omega
    simp only [List.cons_append, List.nil_append]
    rw [decodeChars_four (by omega) known second (continues_byte (v / 64)) (continues_byte v)]
    simp only [join, List.foldl, first, next, middle, last, whole, back]

/-! ## Texts -/

private theorem toList_loop (b : ByteArray) (i : Nat) (done : List UInt8) :
    ByteArray.toList.loop b i done = done.reverse ++ b.data.toList.drop i := by
  fun_induction ByteArray.toList.loop b i done with
  | case1 i done inside ih =>
    have here : i < b.data.toList.length := inside
    have next : b.get! i = b.data.toList[i] := by
      simp only [ByteArray.get!, Array.getElem_toList]
      exact getElem!_pos b.data i inside
    rw [ih, List.drop_eq_getElem_cons here, next]
    simp
  | case2 i done outside =>
    have past : b.data.toList.length ≤ i := Nat.le_of_not_lt outside
    rw [List.drop_eq_nil_of_le past]
    simp

theorem encode_eq_data (s : String) : encode s = s.toUTF8.data.toList := by
  unfold encode ByteArray.toList
  rw [toList_loop]
  simp

/-- The bytes of a text are those of its characters. -/
theorem encode_eq_flatMap (s : String) : encode s = s.toList.flatMap String.utf8EncodeChar := by
  have whole : s.toUTF8 = (s.toList.flatMap String.utf8EncodeChar).toByteArray := by
    rw [String.toUTF8_eq_toByteArray, ← List.utf8Encode, ← String.toByteArray_ofList,
      String.ofList_toList]
  rw [encode_eq_data, whole, List.toList_data_toByteArray]

theorem encode_injective {s t : String} (same : encode s = encode t) : s = t := by
  rw [encode_eq_data, encode_eq_data, Array.toList_inj] at same
  exact String.toByteArray_inj.mp (ByteArray.ext same)

/-- A text is read from its bytes. -/
theorem decodeLossy_encode (s : String) : decodeLossy (encode s) = s := by
  have read : ∀ cs : List Char, decodeChars (cs.flatMap String.utf8EncodeChar) = cs := by
    intro cs
    induction cs with
    | nil => simp [decodeChars]
    | cons c rest ih => rw [List.flatMap_cons, decodeChars_encodeChar, ih]
  rw [decodeLossy, encode_eq_flatMap, read, String.ofList_toList]

/-- Bytes come back from being read and written again just if they are those of some text. -/
theorem toUTF8_decodeLossy_eq_iff {b : ByteArray} :
    (decodeLossy b.data.toList).toUTF8 = b ↔ ∃ text : String, text.toUTF8 = b := by
  constructor
  · intro same
    exact ⟨_, same⟩
  · rintro ⟨text, rfl⟩
    rw [← encode_eq_data, decodeLossy_encode]

theorem encodeChar_ascii :
    ∀ n < 128, String.utf8EncodeChar (Char.ofNat n) = [UInt8.ofNat n] := by decide

/-- Bytes below 128 are those of the characters with their numbers. -/
theorem encode_ascii {bytes : List UInt8} (ascii : ∀ b ∈ bytes, b.toNat < 128) :
    encode (String.ofList (bytes.map fun b => Char.ofNat b.toNat)) = bytes := by
  rw [encode_eq_flatMap, String.toList_ofList]
  induction bytes with
  | nil => rfl
  | cons b rest ih =>
    obtain ⟨first, others⟩ := List.forall_mem_cons.mp ascii
    rw [List.map_cons, List.flatMap_cons, ih others, encodeChar_ascii _ first, UInt8.ofNat_toNat]
    rfl

/-- So a text with such bytes has the characters with their numbers. -/
theorem toList_of_ascii {s : String} (ascii : ∀ b ∈ encode s, b.toNat < 128) :
    s.toList = (encode s).map fun b => Char.ofNat b.toNat := by
  have same := encode_injective (encode_ascii ascii)
  rw [← String.toList_ofList (l := (encode s).map fun b => Char.ofNat b.toNat), same]

/-- A byte below 128 is written for the character with its number and for no other. -/
theorem char_mem_of_byte_mem {s : String} {b : UInt8} (ascii : b.toNat < 128)
    (written : b ∈ encode s) : Char.ofNat b.toNat ∈ s.toList := by
  rw [encode_eq_flatMap, List.mem_flatMap] at written
  obtain ⟨c, member, byte⟩ := written
  have back : Char.ofNat c.val.toNat = c := Char.ofNat_toNat c
  unfold String.utf8EncodeChar at byte
  generalize c.val.toNat = v at back byte
  dsimp only at byte
  split at byte
  · have alone : b = UInt8.ofNat v := List.mem_singleton.mp byte
    rw [alone, toNat_byte (by omega), back]
    exact member
  · -- every byte of a longer character is at least 128
    have long : 128 ≤ b.toNat := by
      split at byte
      · simp only [List.mem_cons, List.not_mem_nil, or_false] at byte
        rcases byte with rfl | rfl <;> simp only [UInt8.toNat_ofNat'] <;> omega
      split at byte
      · simp only [List.mem_cons, List.not_mem_nil, or_false] at byte
        rcases byte with rfl | rfl | rfl <;> simp only [UInt8.toNat_ofNat'] <;> omega
      · simp only [List.mem_cons, List.not_mem_nil, or_false] at byte
        rcases byte with rfl | rfl | rfl | rfl <;> simp only [UInt8.toNat_ofNat'] <;> omega
    omega

private theorem toNat_ofNat (n : Nat) : (Char.ofNat n).toNat = n ∨ (Char.ofNat n).toNat = 0 := by
  unfold Char.ofNat
  by_cases valid : n.isValidChar
  · rw [dif_pos valid]
    exact .inl rfl
  · rw [dif_neg valid]
    exact .inr rfl

/-- No longer sequence is read as an ASCII character. -/
private theorem ne_join {c : Char} (ascii : c.toNat < 128) (given : c.toNat ≠ 0) {lead : Nat}
    {tail : List UInt8} (long : 128 ≤ tail.foldl (fun n b => n * 64 + (b.toNat - 0x80)) lead) :
    c ≠ join lead tail := by
  rintro rfl
  rw [join] at ascii given
  rcases toNat_ofNat (tail.foldl (fun n b => n * 64 + (b.toNat - 0x80)) lead) with same | zero
  · omega
  · exact given zero

/-- A longer sequence has more bits than an ASCII character. -/
private theorem shape?_long {b c low high : UInt8} {count : Nat} (known : shape? b = some (low, high, count))
    (second : low ≤ c) :
    (count = 2 → 2 ≤ b.toNat - 0xc0) ∧
      (count = 3 → 2 ≤ (b.toNat - 0xe0) * 64 + (c.toNat - 0x80)) ∧
      (count ≠ 2 → count ≠ 3 → 1 ≤ (b.toNat - 0xf0) * 64 + (c.toNat - 0x80)) := by
  unfold shape? at known
  simp only [UInt8.le_iff_toNat_le, ← UInt8.toNat_inj, UInt8.reduceToNat] at known second
  split at known
  · cases known
    refine ⟨fun _ => by omega, by simp, by simp⟩
  split at known
  · cases known
    simp only [UInt8.reduceToNat] at second
    refine ⟨by simp, fun _ => by omega, by simp⟩
  split at known
  · cases known
    refine ⟨by simp, fun _ => by omega, by simp⟩
  split at known
  · cases known
    refine ⟨by simp, fun _ => by omega, by simp⟩
  split at known
  · cases known
    simp only [UInt8.reduceToNat] at second
    refine ⟨by simp, by simp, fun _ _ => by omega⟩
  split at known
  · cases known
    refine ⟨by simp, by simp, fun _ _ => by omega⟩
  split at known
  · cases known
    refine ⟨by simp, by simp, fun _ _ => by omega⟩
  · cases known

/-- A character below 128, other than zero, is read from the byte with its number and from no other. -/
theorem byte_mem_of_char_mem {a : Char} (ascii : a.toNat < 128) (given : a.toNat ≠ 0)
    {bytes : List UInt8} (read : a ∈ decodeChars bytes) : UInt8.ofNat a.toNat ∈ bytes := by
  have other : a ≠ replacement := by
    rintro rfl
    revert ascii
    decide
  fun_induction decodeChars bytes with
  | case1 => cases read
  | case2 b rest small ih =>
    rcases List.mem_cons.mp read with rfl | later
    · have number := (toNat_ofNat b.toNat).resolve_right given
      rw [number, UInt8.ofNat_toNat]
      exact List.mem_cons_self
    · exact List.mem_cons_of_mem _ (ih later)
  | case3 b rest large unknown ih =>
    exact List.mem_cons_of_mem _ (ih ((List.mem_cons.mp read).resolve_left other))
  | case4 => exact absurd (List.mem_singleton.mp read) other
  | case5 b large low high c rest second known ih =>
    have long := (shape?_long known second.1).1 rfl
    have notJoined : a ≠ join (b.toNat - 0xc0) [c] := ne_join ascii given (by
      simp only [List.foldl]
      omega)
    have later := ih ((List.mem_cons.mp read).resolve_left notJoined)
    exact .tail _ (.tail _ later)
  | case7 b large low high c second d rest third known notTwo ih =>
    have long := (shape?_long known second.1).2.1 rfl
    have notJoined : a ≠ join (b.toNat - 0xe0) [c, d] := ne_join ascii given (by
      simp only [List.foldl]
      omega)
    have later := ih ((List.mem_cons.mp read).resolve_left notJoined)
    exact .tail _ (.tail _ (.tail _ later))
  | case9 b large low high count known c second notTwo d third notThree e rest fourth ih =>
    have long := (shape?_long known second.1).2.2 notTwo notThree
    have notJoined : a ≠ join (b.toNat - 0xf0) [c, d, e] := ne_join ascii given (by
      simp only [List.foldl]
      omega)
    have later := ih ((List.mem_cons.mp read).resolve_left notJoined)
    exact .tail _ (.tail _ (.tail _ (.tail _ later)))
  | case6 | case8 => exact absurd (List.mem_singleton.mp read) other
  | case10 _ _ _ _ _ _ _ _ _ _ _ _ _ _ _ ih =>
    exact .tail _ (.tail _ (.tail _ (ih ((List.mem_cons.mp read).resolve_left other))))
  | case11 _ _ _ _ _ _ _ _ _ _ _ _ ih =>
    exact .tail _ (.tail _ (ih ((List.mem_cons.mp read).resolve_left other)))
  | case12 _ _ _ _ _ _ _ _ _ ih =>
    exact .tail _ (ih ((List.mem_cons.mp read).resolve_left other))

end Silhouette.Text.Utf8
