import Silhouette.Http.Uri
import Silhouette.Text.Quoted

/-!
Web origins: a scheme and an authority without a path. Two are the same only if their texts are.
-/
namespace Silhouette.Http

/-- A web origin. -/
structure Origin where
  scheme : String
  authority : String
  deriving DecidableEq, Repr

/-- Why a text is no origin. -/
inductive OriginError where
  | noUri (text : String) (cause : UriError)
  | notBare (text : String)
  deriving DecidableEq, Repr

/-- What is told about a failure, from the outside in. -/
def OriginError.messages : OriginError → List String
  | noUri text cause => ["invalid allowed origin " ++ Text.Quoted.text text, cause.message]
  | notBare text =>
    ["allowed origin must look like scheme://host[:port], got " ++ Text.Quoted.text text]

namespace Origin

/-- The text of an origin. -/
def text (o : Origin) : String := o.scheme ++ "://" ++ o.authority

/-- Reads an origin. A path of a single slash is as good as none, unless the text ends in it. -/
def parse (s : String) : Except OriginError Origin :=
  match Uri.parse s with
  | .error e => .error (.noUri s e)
  | .ok uri =>
    match uri.scheme with
    | none => .error (.notBare s)
    | some scheme =>
      if (uri.path = "" ∨ uri.path = "/") ∧ s.toList.getLast? ≠ some '/' then
        .ok ⟨scheme, uri.authority⟩
      else .error (.notBare s)

/-- Reads several origins; the first that is none decides. -/
def parseAll (all : List String) : Except OriginError (List Origin) := all.mapM parse

end Origin

end Silhouette.Http
