/-!
Reading bytes as UTF-8 without refusing any: each longest run of bytes that begins a character but
does not finish one becomes a single replacement character, and reading goes on at the byte that
broke it.
-/
namespace Silhouette.Text.Utf8

/-- The replacement character. -/
def replacement : Char := Char.ofNat 0xfffd

/-- The bytes that may follow a leading byte directly: bounds for the second byte and the number of
bytes of the character. Nothing for a byte that leads no longer character. -/
def shape? (b : UInt8) : Option (UInt8 × UInt8 × Nat) :=
  if 0xc2 ≤ b ∧ b ≤ 0xdf then some (0x80, 0xbf, 2)
  else if b = 0xe0 then some (0xa0, 0xbf, 3)
  else if b = 0xed then some (0x80, 0x9f, 3)
  else if 0xe1 ≤ b ∧ b ≤ 0xef then some (0x80, 0xbf, 3)
  else if b = 0xf0 then some (0x90, 0xbf, 4)
  else if 0xf1 ≤ b ∧ b ≤ 0xf3 then some (0x80, 0xbf, 4)
  else if b = 0xf4 then some (0x80, 0x8f, 4)
  else none

/-- A byte that continues a character. -/
def continues (b : UInt8) : Bool := 0x80 ≤ b && b ≤ 0xbf

/-- The character with the bits of a leading byte and those of the bytes that continue it. -/
def join (lead : Nat) (tail : List UInt8) : Char :=
  Char.ofNat (tail.foldl (fun n b => n * 64 + (b.toNat - 0x80)) lead)

/-- Reads every byte sequence; what is not UTF-8 becomes replacement characters. -/
def decodeChars : List UInt8 → List Char
  | [] => []
  | b :: rest =>
    if b < 0x80 then Char.ofNat b.toNat :: decodeChars rest
    else
      match shape? b with
      | none => replacement :: decodeChars rest
      | some (low, high, count) =>
        match rest with
        | [] => [replacement]
        | c :: rest1 =>
          if low ≤ c ∧ c ≤ high then
            if count = 2 then join (b.toNat - 0xc0) [c] :: decodeChars rest1
            else
              match rest1 with
              | [] => [replacement]
              | d :: rest2 =>
                if continues d then
                  if count = 3 then join (b.toNat - 0xe0) [c, d] :: decodeChars rest2
                  else
                    match rest2 with
                    | [] => [replacement]
                    | e :: rest3 =>
                      if continues e then join (b.toNat - 0xf0) [c, d, e] :: decodeChars rest3
                      else replacement :: decodeChars (e :: rest3)
                else replacement :: decodeChars (d :: rest2)
          else replacement :: decodeChars (c :: rest1)
  termination_by bytes => bytes.length

/-- The text of some bytes, with replacement characters where they are not UTF-8. -/
def decodeLossy (bytes : List UInt8) : String := String.ofList (decodeChars bytes)

/-- The text of bytes that are UTF-8 throughout. -/
def decode? (bytes : ByteArray) : Option String := String.fromUTF8? bytes

/-- The bytes of a text. -/
def encode (s : String) : List UInt8 := s.toUTF8.toList

end Silhouette.Text.Utf8
