import Silhouette.Http.Message
import Silhouette.Http.Origin

/-!
Who may use the relay from a web page. A request without an origin is let through; one with an origin
only if that is on the list, letter by letter. Browsers ask beforehand with the method `OPTIONS`.
-/
namespace Silhouette.Relay

/-- Why a web page is refused. -/
inductive AccessRefusal where
  | origin
  | method
  | header
  deriving DecidableEq, Repr

/-- The text of a refusal. -/
def AccessRefusal.message : AccessRefusal → String
  | origin => "CORS request forbidden: origin not allowed"
  | method => "CORS request forbidden: request-method not allowed"
  | header => "CORS request forbidden: header not allowed"

/-- What is found out about a request before it is routed. -/
inductive Access where
  | direct
  | granted (origin : String)
  | preflight (origin : String)
  | refused (why : AccessRefusal)
  deriving DecidableEq, Repr

/-- The methods that a web page may use. -/
def pageMethods : List String := ["GET", "OPTIONS", "POST"]

/-- The text of the origin on the list that a header value spells. -/
def listed? (allowed : List Http.Origin) (value : List UInt8) : Option String :=
  (allowed.map Http.Origin.text).find? fun text => Text.Utf8.encode text = value

/-- Judges a request. No header of a page's own is allowed. -/
def access (allowed : List Http.Origin) (q : Http.Request) : Access :=
  match q.header? "origin" with
  | none => .direct
  | some value =>
    match listed? allowed value with
    | none => .refused .origin
    | some origin =>
      if q.method ≠ "OPTIONS" then .granted origin
      else
        match q.headerText? "access-control-request-method" with
        | none => .refused .method
        | some method =>
          if !pageMethods.contains method then .refused .method
          else if (q.header? "access-control-request-headers").isSome then .refused .header
          else .preflight origin

/-- The header that grants an origin access. -/
def grantHeader : String := "access-control-allow-origin"

/-- The reply to a page that asks beforehand. -/
def preflightReply (origin : String) : Http.Reply :=
  ⟨200, [("access-control-allow-headers", ""),
    ("access-control-allow-methods", Text.joinWith ", " pageMethods), (grantHeader, origin)],
    .empty⟩

end Silhouette.Relay
