import Silhouette.Duration
import Silhouette.Identifier
import Silhouette.Asset.Format
import Silhouette.Service.Error

/-!
How the removal of a background fails, stage by stage, and what a user is told. Before a removal
fails for want of image data it has tried several strategies, and the error lists every attempt.
-/
namespace Silhouette

/-- A way to come by the data of a costume. -/
inductive Strategy where
  | resident
  | cache
  | loader
  deriving DecidableEq, Repr

/-- The word for a strategy. -/
def Strategy.text : Strategy → String
  | resident => "resident"
  | cache => "cache"
  | loader => "loader"

/-- Why a strategy gave nothing. -/
inductive AttemptOutcome where
  | missing
  | skipped (reason : String)
  | failed (reason : String)
  | timedOut (after : Duration)
  deriving DecidableEq, Repr

/-- A strategy that gave nothing. -/
structure Attempt where
  strategy : Strategy
  outcome : AttemptOutcome
  deriving DecidableEq, Repr

/-- The text of an attempt. -/
def Attempt.text (a : Attempt) : String :=
  a.strategy.text ++
    match a.outcome with
    | .missing => ": missing"
    | .skipped reason => ": skipped (" ++ reason ++ ")"
    | .failed reason => ": failed (" ++ reason ++ ")"
    | .timedOut after => ": timed out after " ++ after.text

/-- A failed removal. -/
inductive RemovalError where
  | unsupportedFormat (format : Format)
  | resolutionFailed (attempts : List Attempt)
  | encodeFailed (reason : String)
  | networkError (reason : String)
  | timeout (after : Duration)
  | httpError (status : Nat) (body : ErrorBody)
  | notImage (contentType : Option String)
  | decodeFailed (reason : String)
  | installFailed (reason : String)
  | alreadyProcessing (target : TargetId)
  deriving DecidableEq, Repr

/-- Who can do something about a failure: whoever chose the costume, the service, or this program. -/
inductive FailureCategory where
  | input
  | remote
  | local
  deriving DecidableEq, Repr

namespace RemovalError

/-- The texts of all attempts. -/
def attemptsText (attempts : List Attempt) : String :=
  if attempts = [] then "no strategies tried" else "; ".intercalate (attempts.map Attempt.text)

/-- The text of a failure. -/
def message : RemovalError → String
  | unsupportedFormat format => "unsupported costume format: " ++ format.extension
  | resolutionFailed attempts =>
    "could not resolve costume bytes (" ++ attemptsText attempts ++ ")"
  | encodeFailed reason => "could not encode upload: " ++ reason
  | networkError reason => "network error: " ++ reason
  | timeout after => "service did not respond within " ++ after.text
  | httpError status body => "service returned " ++ toString status ++ ": " ++ body.text
  | notImage contentType =>
    "service response is not an image (content type " ++ Text.Quoted.option contentType ++ ")"
  | decodeFailed reason => "could not decode result: " ++ reason
  | installFailed reason => "could not install result: " ++ reason
  | alreadyProcessing target => "target " ++ target.text ++ " is already processing"

/-- The category of a failure. -/
def category : RemovalError → FailureCategory
  | unsupportedFormat _ | resolutionFailed _ | encodeFailed _ => .input
  | networkError _ | timeout _ | httpError _ _ | notImage _ => .remote
  | decodeFailed _ | installFailed _ | alreadyProcessing _ => .local

/-- The part of a user's message that tells what went wrong. -/
def userDetail : RemovalError → String
  | unsupportedFormat _ => "vector costumes are not supported; convert to bitmap first."
  | resolutionFailed _ => "could not read costume bytes."
  | encodeFailed _ => "could not prepare the image for upload."
  | networkError _ => "network error."
  | timeout _ => "the service took too long to respond."
  | httpError status body =>
    match body.message with
    | some message =>
      "API returned an error (" ++ toString status ++ ": " ++ message ++ ")."
    | none => "API returned an error (" ++ toString status ++ ")."
  | notImage _ => "the service did not return an image."
  | decodeFailed _ => "could not decode PNG for renderer."
  | installFailed _ => "could not add the new costume."
  | alreadyProcessing _ => "already working on this sprite."

/-- What a user is told. -/
def userMessage (e : RemovalError) : String := "Background Remover: " ++ e.userDetail

/-- The failure of a removal whose exchange with the service failed. -/
def ofService : ServiceError → RemovalError
  | .encodeFailed reason => encodeFailed reason
  | .invalidConfig reason => encodeFailed reason
  | .networkError reason => networkError reason
  | .timeout after => timeout after
  | .httpError status body => httpError status body
  | .notImage contentType => notImage contentType

end RemovalError

end Silhouette
