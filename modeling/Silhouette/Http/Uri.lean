import Silhouette.Text.Utf8
import Silhouette.Text.Blank

/-!
Addresses of resources: a scheme, an authority, and a path with a query; each may be missing. A
fragment is dropped. Scheme and authority come together or the address is an authority alone, or a
path alone.
-/
namespace Silhouette.Http

/-- Why a text is no address. -/
inductive UriError where
  | empty
  | tooLong
  | schemeTooLong
  | invalidCharacter
  | invalidAuthority
  | invalidFormat
  deriving DecidableEq, Repr

/-- The text of a failure. -/
def UriError.message : UriError → String
  | empty => "empty string"
  | tooLong => "uri too long"
  | schemeTooLong => "scheme too long"
  | invalidCharacter => "invalid uri character"
  | invalidAuthority => "invalid authority"
  | invalidFormat => "invalid format"

/-- An address. The path comes with its query, and is empty if there is none. -/
structure Uri where
  scheme : Option String
  authority : String
  path : String
  deriving DecidableEq, Repr

namespace Uri

/-- The longest address, in bytes. -/
def maxLength : Nat := 65534

/-- The longest scheme. -/
def maxSchemeLength : Nat := 64

/-- A character of a scheme. -/
def isSchemeChar (c : Char) : Bool := c.isAlphanum || "+-.~".toList.contains c

/-- A character that may stand in an authority, or end it. -/
def isUriChar (c : Char) : Bool := c.isAlphanum || "!#$&\x27()*+,-./:;=?@[]_~".toList.contains c

/-- A character that ends an authority. -/
def endsAuthority (c : Char) : Bool := c = '/' || c = '?' || c = '#'

/-- A character of a path. -/
def isPathChar (c : Char) : Bool :=
  33 ≤ c.toNat && c.toNat < 127 && !"#<>?\x60".toList.contains c

/-- A character of a query. -/
def isQueryChar (c : Char) : Bool := 33 ≤ c.toNat && c.toNat < 127 && !"\"#<>".toList.contains c

/-- Reads the scheme at the front, if there is one, and gives what follows its `://`. The two usual
schemes come out in lower case. -/
def scheme? (cs : List Char) : Except UriError (Option (String × List Char)) :=
  let lead := cs.takeWhile isSchemeChar
  match cs.dropWhile isSchemeChar with
  | ':' :: '/' :: '/' :: rest =>
    let lower := Text.lower (String.ofList lead)
    if lower = "http" ∨ lower = "https" then .ok (some (lower, rest))
    else if cs.length ≤ 3 then .ok none
    else if maxSchemeLength < lead.length then .error .schemeTooLong
    else .ok (some (String.ofList lead, rest))
  | _ => .ok none

/-- What was seen of an authority: the colons since the last bracket or at sign, whether a bracket
was opened and closed, whether a percent sign stands outside of what may hold one, and whether the
last character was an at sign. -/
structure AuthorityScan where
  colons : Nat
  opened : Bool
  closed : Bool
  percent : Bool
  atSign : Bool

/-- Takes one more character of an authority. -/
def AuthorityScan.next (s : AuthorityScan) (c : Char) : Except UriError AuthorityScan :=
  let s := { s with atSign := false }
  if c = ':' then
    if 8 ≤ s.colons then .error .invalidAuthority else .ok { s with colons := s.colons + 1 }
  else if c = '[' then
    if s.percent || s.opened then .error .invalidAuthority else .ok { s with opened := true }
  else if c = ']' then
    if !s.opened || s.closed then .error .invalidAuthority
    else .ok { s with closed := true, colons := 0, percent := false }
  else if c = '@' then .ok { s with colons := 0, percent := false, atSign := true }
  else if c = '%' then .ok { s with percent := true }
  else if isUriChar c then .ok s
  else .error .invalidCharacter

/-- Whether an authority may end here. -/
def AuthorityScan.isComplete (s : AuthorityScan) : Bool :=
  s.opened = s.closed && s.colons ≤ 1 && !s.atSign && !s.percent

/-- Splits the authority from what follows it. -/
def splitAuthority (cs : List Char) : Except UriError (List Char × List Char) :=
  let inside := cs.takeWhile fun c => !endsAuthority c
  match inside.foldlM AuthorityScan.next ⟨0, false, false, false, false⟩ with
  | .error e => .error e
  | .ok scan =>
    if scan.isComplete then .ok (inside, cs.dropWhile fun c => !endsAuthority c)
    else .error .invalidAuthority

/-- A path with its query. -/
def pathAndQuery (cs : List Char) : Except UriError String :=
  let path := cs.takeWhile fun c => c ≠ '?' && c ≠ '#'
  match cs.dropWhile fun c => c ≠ '?' && c ≠ '#' with
  | '?' :: rest =>
    let query := rest.takeWhile (· ≠ '#')
    if path.all isPathChar && query.all isQueryChar then
      .ok (String.ofList (path ++ '?' :: query))
    else .error .invalidCharacter
  | _ => if path.all isPathChar then .ok (String.ofList path) else .error .invalidCharacter

/-- Reads an address that does not begin with a slash. -/
def parseFull (cs : List Char) : Except UriError Uri :=
  match scheme? cs with
  | .error e => .error e
  | .ok found =>
    match splitAuthority ((found.map Prod.snd).getD cs) with
    | .error e => .error e
    | .ok (inside, rest) =>
      match found with
      | none =>
        if rest = [] then .ok ⟨none, String.ofList inside, ""⟩ else .error .invalidFormat
      | some (scheme, _) =>
        if inside = [] then .error .invalidFormat
        else (pathAndQuery rest).map fun path => ⟨some scheme, String.ofList inside, path⟩

/-- Reads an address. -/
def parse (s : String) : Except UriError Uri :=
  if maxLength < s.utf8ByteSize then .error .tooLong
  else
    match s.toList with
    | [] => .error .empty
    | ['*'] => .ok ⟨none, "", "*"⟩
    | '/' :: rest => (pathAndQuery ('/' :: rest)).map fun path => ⟨none, "", path⟩
    | [c] =>
      match splitAuthority [c] with
      | .error e => .error e
      | .ok (inside, rest) =>
        if rest = [] then .ok ⟨none, String.ofList inside, ""⟩ else .error .invalidCharacter
    | cs => parseFull cs

/-- The path without its query; a slash for an absolute address without a path. -/
def pathOnly (u : Uri) : String :=
  let path := String.ofList (u.path.toList.takeWhile (· ≠ '?'))
  if path = "" ∧ u.scheme.isSome then "/" else path

end Uri

end Silhouette.Http
