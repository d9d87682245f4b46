import Silhouette.Text.Utf8

/-!
Header names and values. A name is a token; a value holds no control character but the tab. Values
are bytes, and only those that are visible ASCII throughout have a text.
-/
namespace Silhouette.Http

/-- The characters of a token. -/
def isTokenChar (c : Char) : Bool :=
  c.isAlphanum || "!#$%&\x27*+-.^_\x60|~".toList.contains c

/-- A non-empty token of at most 65535 characters. -/
def isHeaderName (s : String) : Bool :=
  let cs := s.toList
  cs ≠ [] && cs.length ≤ 65535 && cs.all isTokenChar

/-- A byte that a header value may hold. -/
def isValueByte (b : UInt8) : Bool := (32 ≤ b && b ≠ 127) || b = 9

/-- A text that can be sent as a header value. -/
def isHeaderValue (s : String) : Bool := (Text.Utf8.encode s).all isValueByte

/-- A byte that a header value with a text may hold. -/
def isVisibleByte (b : UInt8) : Bool := (32 ≤ b && b < 127) || b = 9

/-- The text of a header value that is visible ASCII throughout. -/
def visibleText? (value : List UInt8) : Option String :=
  if value.all isVisibleByte then some (String.ofList (value.map fun b => Char.ofNat b.toNat))
  else none

end Silhouette.Http
