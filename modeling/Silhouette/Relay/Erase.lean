import Silhouette.Files.Tree
import Silhouette.Http.Message
import Silhouette.Http.ReceivedForm
import Silhouette.Relay.SafeName
import Silhouette.Service.Client

/-!
Passing an uploaded image on to the removal service. The first part with the right name goes to the
service once; a copy of what comes back is saved before the reply. An error response of the service
is passed on with its status and its text.
-/
namespace Silhouette

/-- What a relay is set up with: the service, and the directory of saved copies. -/
structure Relay where
  service : Service
  saveDir : Path

/-- What changes from one request to the next: the files, and the requests sent to the service. -/
structure RelayState where
  files : FileTree
  sent : List ServiceRequest

namespace Relay

/-- The file name of an upload that comes without one. -/
def defaultFilename : String := "input.jpg"

/-- The content type of an upload that comes without one. -/
def defaultPartType : String := "application/octet-stream"

/-- The first part with an image. -/
def imagePart? (form : Http.ReceivedForm) : Option Http.ReceivedPart :=
  form.parts.find? fun p => p.label = some ServiceRequest.fieldName

/-- The file name of an upload; an empty one is none. -/
def uploadName (part : Http.ReceivedPart) : String :=
  (part.filename.filter (· ≠ "")).getD defaultFilename

/-- The request to the service for an upload. -/
def forwarded (part : Http.ReceivedPart) : ServiceRequest :=
  ⟨part.content, uploadName part, none, some (part.contentType.getD defaultPartType)⟩

/-- A status that can be sent; any other becomes that of a bad gateway. -/
def statusOr502 (status : Nat) : Nat := if 100 ≤ status ∧ status ≤ 999 then status else 502

/-- The reply to an upload that the service did not answer with an image. -/
def failureReply : ServiceError → Http.Reply
  | .httpError status body => .text (statusOr502 status) body.raw
  | .encodeFailed reason => .text 400 (ServiceError.encodeFailed reason).message
  | e => .text 500 e.message

/-- Saves a copy, creating the directory if needed. The tree that comes back is the one that is left,
also after a failure. -/
def saveCopy (r : Relay) (files : FileTree) (name : String) (bytes : ByteArray) :
    Except IoError Unit × FileTree :=
  match files.createDirectories r.saveDir with
  | (.error e, files) => (.error e, files)
  | (.ok (), files) =>
    match files.write (r.saveDir.join (Path.ofText name)) bytes with
    | .error e => (.error e, files)
    | .ok files => (.ok (), files)

/-- Passes an upload on at a time in milliseconds. -/
def relayPart (r : Relay) (now : Nat) (s : RelayState) (part : Http.ReceivedPart) :
    Http.Reply × RelayState :=
  let request := forwarded part
  let sent := s.sent ++ [request]
  match r.service s.sent request with
  | .error e => (failureReply e, { s with sent })
  | .ok output =>
    match r.saveCopy s.files (savedName now request.filename) output.bytes with
    | (.error e, files) => (.text 500 e.message, ⟨files, sent⟩)
    | (.ok (), files) => (⟨200, [("content-type", "image/png")], output.bytes⟩, ⟨files, sent⟩)

/-- Answers a form. -/
def erase (r : Relay) (now : Nat) (s : RelayState) (form : Http.ReceivedForm) :
    Http.Reply × RelayState :=
  match imagePart? form with
  | some part => r.relayPart now s part
  | none =>
    match form.broken with
    | some e => (.text 400 ("invalid form: " ++ e.message), s)
    | none => (.text 400 "image_file required", s)

end Relay

end Silhouette
