import Silhouette.Text.Utf8
import Silhouette.Http.Mime

/-!
The header of a form part: lines of a name, a colon and a value, up to an empty line. A line may end
in a line feed alone. Of a name that occurs twice the last value counts.
-/
namespace Silhouette.Http

/-- A header line: a name in lower case and a value without blanks around it. -/
structure HeaderLine where
  name : String
  value : List UInt8
  deriving DecidableEq, Repr

namespace PartHeader

/-- A byte of a header name. -/
def isNameByte (b : UInt8) : Bool := b < 128 && isTokenChar (Char.ofNat b.toNat)

/-- A blank in a header line. -/
def isPadding (b : UInt8) : Bool := b = 32 || b = 9

/-- What follows the end of a line. -/
def afterLineEnd? : List UInt8 → Option (List UInt8)
  | 13 :: 10 :: rest => some rest
  | 10 :: rest => some rest
  | _ => none

/-- The bytes without the blanks at their end. -/
def trimEnd (value : List UInt8) : List UInt8 := (value.reverse.dropWhile isPadding).reverse

/-- The text of a header name. -/
def nameText (bytes : List UInt8) : String :=
  String.ofList (bytes.map fun b => Text.lowerChar (Char.ofNat b.toNat))

/-- Reads one line, and gives what follows it. -/
def line? (bytes : List UInt8) : Option (HeaderLine × List UInt8) :=
  match bytes.takeWhile isNameByte, bytes.dropWhile isNameByte with
  | [], _ => none
  | name, 58 :: rest =>
    let rest := rest.dropWhile isPadding
    match afterLineEnd? (rest.dropWhile isValueByte) with
    | none => none
    | some after => some (⟨nameText name, trimEnd (rest.takeWhile isValueByte)⟩, after)
  | _, _ => none

/-- The most lines that a header may have. -/
def maxLines : Nat := 32

/-- Reads lines up to an empty one, at most `count` of them. -/
def lines? : Nat → List UInt8 → Option (List HeaderLine)
  | 0, bytes => if (afterLineEnd? bytes).isSome then some [] else none
  | count + 1, bytes =>
    if (afterLineEnd? bytes).isSome then some []
    else
      match line? bytes with
      | none => none
      | some (line, rest) => (lines? count rest).map (line :: ·)

/-- Reads a header. -/
def read? (bytes : List UInt8) : Option (List HeaderLine) := lines? maxLines bytes

/-- The last value under a name. -/
def last? (name : String) (lines : List HeaderLine) : Option (List UInt8) :=
  (lines.reverse.find? fun line => line.name = name).map HeaderLine.value

/-- The media type that a header gives, if it gives one that can be read. -/
def contentType? (lines : List HeaderLine) : Option Mime :=
  ((last? "content-type" lines).bind visibleText?).bind Mime.parse?

/-- A byte that may stand in front of a parameter's name. -/
def isGap (b : UInt8) : Bool := b = 32 || (9 ≤ b && b ≤ 13 && b ≠ 11) || b = 59

/-- White space in front of a sign. -/
def isSpace (b : UInt8) : Bool := isGap b && b ≠ 59

/-- The content of a quoted value after its opening quote. A backslash in front of a quote makes it
content; in front of anything else it stands for itself. -/
def quoted? : List UInt8 → Option (List UInt8)
  | [] => none
  | 34 :: _ => some []
  | 92 :: 34 :: rest => (quoted? rest).map (34 :: ·)
  | b :: rest => (quoted? rest).map (b :: ·)

/-- The value of a parameter from its equals sign on: quoted, or up to a semicolon or a space. -/
def parameterValue? (bytes : List UInt8) : Option (List UInt8) :=
  match bytes.dropWhile isSpace with
  | 61 :: rest =>
    match rest.dropWhile isSpace with
    | 34 :: rest => quoted? rest
    | rest => some (rest.takeWhile fun b => b ≠ 59 && b ≠ 32)
  | _ => none

/-- Looks for a parameter's name with a gap or nothing in front of it, and gives its value. A name
found as the end of another word is passed over, and what follows it counts as a new beginning. -/
def parameterFrom? (name : List UInt8) : Nat → Bool → List UInt8 → Option (List UInt8)
  | _, _, [] => none
  | skip + 1, _, _ :: rest => parameterFrom? name skip true rest
  | 0, free, b :: rest =>
    if name.isPrefixOf (b :: rest) then
      if free then parameterValue? ((b :: rest).drop name.length)
      else parameterFrom? name (name.length - 1) true rest
    else parameterFrom? name 0 (isGap b) rest

/-- The text of a parameter of a header value. -/
def parameter? (name : String) (value : List UInt8) : Option String :=
  (parameterFrom? (Text.Utf8.encode name) 0 true value).bind fun bytes =>
    Text.Utf8.decode? ⟨bytes.toArray⟩

end PartHeader

end Silhouette.Http
