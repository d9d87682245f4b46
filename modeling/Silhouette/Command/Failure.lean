import Silhouette.Command.Configuration
import Silhouette.Files.Tree
import Silhouette.Host.Error
import Silhouette.Http.Origin
import Silhouette.Removal.Error
import Silhouette.Service.Upload

/-!
How a command fails and what is told about it: one message for what was being done, and one for each
cause below it. Here is also what every command leaves behind, however it ends.
-/
namespace Silhouette.Command

/-- A failure of a command. -/
inductive Failure where
  | reading (path : Path) (cause : IoError)
  | writing (path : Path) (cause : IoError)
  | configuration (path : Path)
  | settings (cause : SettingsError)
  | client (cause : ServiceError)
  | service (source : Path) (cause : ServiceError)
  | removal (cause : RemovalError)
  | saving (name : String) (folder : Path) (cause : HostError)
  | origin (cause : Http.OriginError)

/-- The messages of a refusal and of what is below it. -/
def hostMessages (e : HostError) : List String :=
  e.message ::
    match e with
    | .io _ cause => [cause.message]
    | .buffer cause => [cause.message]
    | _ => []

/-- What is told about a failure, from the outside in. -/
def Failure.messages : Failure → List String
  | reading path cause => ["reading " ++ path.text, cause.message]
  | writing path cause => ["writing " ++ path.text, cause.message]
  | configuration path => ["in " ++ path.text, "invalid configuration"]
  | settings cause => [cause.message]
  | client cause => [cause.message]
  | service source cause => ["removing background from " ++ source.text, cause.message]
  | removal cause => [cause.userMessage, cause.message]
  | saving name folder cause =>
    ("saving " ++ name ++ " into " ++ folder.text) :: hostMessages cause
  | origin cause => cause.messages

/-- How a command ended, the files that it leaves and the requests that it sent to the service. -/
structure Outcome (α : Type) where
  result : Except Failure α
  files : FileTree
  sent : List ServiceRequest

/-- The outcome with another view of its result. -/
def Outcome.map (f : α → β) (o : Outcome α) : Outcome β := ⟨o.result.map f, o.files, o.sent⟩

/-- The outcome of a command that fails before it has done anything. -/
def Outcome.untouched (files : FileTree) (e : Failure) : Outcome α := ⟨.error e, files, []⟩

end Silhouette.Command
