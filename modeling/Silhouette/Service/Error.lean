import Silhouette.Duration
import Silhouette.Text.Quoted
import Silhouette.Service.ErrorBody

/-!
How an exchange with the removal service fails. Nothing is tried twice, so every failure is told
once.
-/
namespace Silhouette

/-- A failed exchange. -/
inductive ServiceError where
  | encodeFailed (reason : String)
  | networkError (reason : String)
  | timeout (after : Duration)
  | httpError (status : Nat) (body : ErrorBody)
  | invalidConfig (reason : String)
  | notImage (contentType : Option String)
  deriving DecidableEq, Repr

/-- The text of a failed exchange. -/
def ServiceError.message : ServiceError → String
  | encodeFailed reason => "could not encode upload: " ++ reason
  | networkError reason => "network error: " ++ reason
  | timeout after => "no response within " ++ after.text
  | httpError status body => "service returned " ++ toString status ++ ": " ++ body.text
  | invalidConfig reason => "invalid transform configuration: " ++ reason
  | notImage contentType =>
    "response is not an image (content type " ++ Text.Quoted.option contentType ++ ")"

end Silhouette
