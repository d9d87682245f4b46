import Silhouette.Text.Blank
import Silhouette.Http.Header

/-!
Media types with their parameters. Type, subtype and parameter names are tokens; the value of a
parameter is a token or stands between quotes, where no escapes are known and a quote directly after
the opening one counts as content. The subtype may be empty if nothing follows it.
-/
namespace Silhouette.Http

/-- A media type: its parts, and its text with types, parameter names and the name of a character set
in lower case. -/
structure Mime where
  top : List Char
  sub : List Char
  params : List (List Char × List Char)
  text : List Char
  deriving DecidableEq, Repr

namespace Mime

/-- A character that may stand between quotes. -/
def isQuotedChar (c : Char) : Bool := 31 < c.toNat && c.toNat ≠ 127

/-- The token at the front, and what follows it. -/
def token (cs : List Char) : List Char × List Char :=
  (cs.takeWhile isTokenChar, cs.dropWhile isTokenChar)

/-- Reads a value after its opening quote, up to and with the closing one. -/
def quoted? : List Char → Option (List Char × List Char)
  | [] => none
  | first :: rest =>
    let content := first :: rest.takeWhile (· != '"')
    match rest.dropWhile (· != '"') with
    | [] => none
    | _ :: rest => if content.all isQuotedChar then some (content, rest) else none

/-- The value of a parameter: what it is, how it is written, and what follows, which starts with the
semicolon or is empty. -/
structure Value where
  content : List Char
  written : List Char
  rest : List Char

/-- Reads the value of a parameter. -/
def value? : List Char → Option Value
  | '"' :: rest =>
    match quoted? rest with
    | none => none
    | some (content, rest) =>
      some ⟨content, '"' :: content ++ '"' :: rest.takeWhile (· == ' '),
        rest.dropWhile (· == ' ')⟩
  | cs =>
    match token cs with
    | ([], []) => some ⟨[], [], []⟩
    | ([], _) => none
    | (content, rest) => some ⟨content, content, rest⟩

/-- Parameters, and the text that they stand in. -/
structure Params where
  all : List (List Char × List Char)
  text : List Char

/-- Puts a parameter in front of others. -/
def Params.cons (name : List Char) (value : Value) (ending : List Char) (more : Params) : Params :=
  let key := name.map Text.lowerChar
  let written :=
    if key = "charset".toList then value.written.map Text.lowerChar else value.written
  ⟨(key, value.content) :: more.all, key ++ '=' :: written ++ ending ++ more.text⟩

/-- Reads parameters, at most `fuel` of them; blanks may stand in front of each. -/
def params? : Nat → List Char → Option Params
  | 0, cs => if cs = [] then some ⟨[], []⟩ else none
  | fuel + 1, cs =>
    let blanks := cs.takeWhile (· == ' ')
    match cs.dropWhile (· == ' ') with
    | [] => some ⟨[], blanks⟩
    | cs =>
      match token cs with
      | ([], _) => none
      | (name, '=' :: rest) =>
        match value? rest with
        | none => none
        | some value =>
          let found : Option Params :=
            match value.rest with
            | [] => some (.cons name value [] ⟨[], []⟩)
            | ';' :: rest => (params? fuel rest).map (.cons name value [';'])
            | _ => none
          found.map fun ps => { ps with text := blanks ++ ps.text }
      | _ => none

/-- Reads a media type. -/
def parse? (s : String) : Option Mime :=
  match token s.toList with
  | ([], _) => none
  | (top, '/' :: rest) =>
    let top := top.map Text.lowerChar
    match token rest with
    | (sub, []) =>
      let sub := sub.map Text.lowerChar
      some ⟨top, sub, [], top ++ '/' :: sub⟩
    | ([], _) => none
    | (sub, ';' :: rest) =>
      let sub := sub.map Text.lowerChar
      (params? rest.length rest).map fun ps =>
        ⟨top, sub, ps.all, top ++ '/' :: sub ++ ';' :: ps.text⟩
    | _ => none
  | _ => none

/-- The first value of a parameter. -/
def param? (m : Mime) (name : String) : Option String :=
  (m.params.find? fun p => p.1 = name.toList).map fun p => String.ofList p.2

end Mime

end Silhouette.Http
