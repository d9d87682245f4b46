import Silhouette.Bytes.Equality
import Silhouette.Http.Header
import Silhouette.Text.Blank

/-!
Requests that a server receives and its replies to them. Header names are the same in either case.
-/
namespace Silhouette.Http

/-- A request. -/
structure Request where
  method : String
  target : String
  headers : List (String × List UInt8)
  body : ByteArray
  deriving DecidableEq

namespace Request

/-- All values under a header name, in their order. -/
def values (q : Request) (name : String) : List (List UInt8) :=
  (q.headers.filter fun h => Text.lower h.1 = name).map Prod.snd

/-- The first value under a header name. -/
def header? (q : Request) (name : String) : Option (List UInt8) := (q.values name).head?

/-- The text of the first value under a header name, if it is visible throughout. -/
def headerText? (q : Request) (name : String) : Option String :=
  (q.header? name).bind visibleText?

/-- A length as a header gives it: digits, with a plus sign in front or not, that fit a word. -/
def length? (value : List UInt8) : Option Nat :=
  match (visibleText? value).map String.toList with
  | none => none
  | some cs =>
    let digits := match cs with
      | '+' :: rest => rest
      | _ => cs
    (Text.natOfDigits? digits).filter fun n => n ≤ 0xffffffffffffffff

/-- The length of the body as the headers give it; all of them must give the same. -/
def contentLength? (q : Request) : Option Nat :=
  match q.values "content-length" with
  | [] => none
  | first :: rest =>
    match length? first with
    | none => none
    | some n => if rest.all fun value => length? value = some n then some n else none

end Request

/-- A reply; its headers have names in lower case. -/
structure Reply where
  status : Nat
  headers : List (String × String)
  body : ByteArray
  deriving DecidableEq

namespace Reply

/-- A reply that is plain text. -/
def text (status : Nat) (body : String) : Reply :=
  ⟨status, [("content-type", "text/plain; charset=utf-8")], body.toUTF8⟩

/-- A reply with one more header. -/
def withHeader (r : Reply) (name value : String) : Reply :=
  { r with headers := r.headers ++ [(name, value)] }

end Reply

end Silhouette.Http
