import Silhouette.Relay.Access
import Silhouette.Relay.Erase

/-!
The relay's two resources: `ping`, which is read, and `erase`, to which forms are posted. A path may
end in a slash. A form must tell its length, which is limited, and its boundary.
-/
namespace Silhouette.Relay

/-- The largest form, in bytes. -/
def maxUpload : Nat := 25 * 1024 * 1024

/-- A resource of the relay. -/
inductive Resource where
  | ping
  | erase
  deriving DecidableEq, Repr

namespace Resource

/-- The method by which a resource is used. -/
def method : Resource → String
  | ping => "GET"
  | erase => "POST"

/-- The resource that a path names. -/
def ofPath? (path : String) : Option Resource :=
  match path.toList with
  | '/' :: rest =>
    let name := String.ofList rest
    if name = "ping" ∨ name = "ping/" then some ping
    else if name = "erase" ∨ name = "erase/" then some erase
    else none
  | _ => none

end Resource

/-- Why a request is turned away. -/
inductive Rejection where
  | notFound
  | wrongMethod
  | noLength
  | tooLarge
  | noBoundary
  | access (why : AccessRefusal)
  deriving DecidableEq, Repr

/-- The reply to a request that is turned away. -/
def Rejection.reply : Rejection → Http.Reply
  | notFound => ⟨404, [], .empty⟩
  | wrongMethod => .text 405 "HTTP method not allowed"
  | noLength => .text 411 "A content-length header is required"
  | tooLarge => .text 413 "The request payload is too large"
  | noBoundary => .text 400 "Invalid request header \"content-type\""
  | access why => .text 403 why.message

/-- The resource that a request is for. -/
def resource (q : Http.Request) : Except Rejection Resource :=
  match (Http.Uri.parse q.target).toOption.bind fun uri => Resource.ofPath? uri.pathOnly with
  | none => .error .notFound
  | some found => if q.method = found.method then .ok found else .error .wrongMethod

/-- The boundary of a posted form. Its length is looked at first. -/
def boundary (q : Http.Request) : Except Rejection String :=
  match q.contentLength? with
  | none => .error .noLength
  | some length =>
    if maxUpload < length then .error .tooLarge
    else
      match ((q.headerText? "content-type").bind Http.Mime.parse?).bind (·.param? "boundary") with
      | none => .error .noBoundary
      | some boundary => .ok boundary

/-- The reply that the relay is alive. -/
def pong : Http.Reply := ⟨200, [("content-type", "application/json")], "\x7b\"ok\":true\x7d".toUTF8⟩

/-- Answers a request that may be answered. Rejections get no access header. -/
def route (r : Relay) (now : Nat) (s : RelayState) (q : Http.Request) :
    Except Rejection Http.Reply × RelayState :=
  match resource q with
  | .error e => (.error e, s)
  | .ok .ping => (.ok pong, s)
  | .ok .erase =>
    match boundary q with
    | .error e => (.error e, s)
    | .ok boundary =>
      let (reply, s) := r.erase now s (.read boundary q.body)
      (.ok reply, s)

/-- Answers a request at a time in milliseconds. -/
def answer (r : Relay) (allowed : List Http.Origin) (now : Nat) (s : RelayState)
    (q : Http.Request) : Http.Reply × RelayState :=
  match access allowed q with
  | .refused why => ((Rejection.access why).reply, s)
  | .preflight origin => (preflightReply origin, s)
  | .direct =>
    match r.route now s q with
    | (.error e, s) => (e.reply, s)
    | (.ok reply, s) => (reply, s)
  | .granted origin =>
    match r.route now s q with
    | (.error e, s) => (e.reply, s)
    | (.ok reply, s) => (reply.withHeader grantHeader origin, s)

end Silhouette.Relay
