import Silhouette.Identifier
import Silhouette.Asset.Buffer
import Silhouette.Files.Error
import Silhouette.Files.Path

/-!
What a host answers when it cannot do what it was asked for: storage that has no such asset or
cannot be read, a registry that refuses, a renderer that refuses.
-/
namespace Silhouette

/-- A refusal of the host. -/
inductive HostError where
  | notFound (what : String)
  | io (path : Path) (cause : IoError)
  | buffer (cause : BufferError)
  | registryRejected (reason : String)
  | skinCreation (reason : String)
  | unknownSkin (skin : SkinId)
  | unknownDrawable (drawable : DrawableId)
  | bindingRejected (drawable : DrawableId) (skin : SkinId) (reason : String)
  deriving DecidableEq, Repr

/-- The text of a refusal. -/
def HostError.message : HostError → String
  | notFound what => "asset not found: " ++ what
  | io path cause => "io error on " ++ path.text ++ ": " ++ cause.message
  | buffer cause => "malformed buffer: " ++ cause.message
  | registryRejected reason => "registry rejected asset: " ++ reason
  | skinCreation reason => "skin creation failed: " ++ reason
  | unknownSkin skin => "unknown skin: " ++ skin.text
  | unknownDrawable drawable => "unknown drawable: " ++ drawable.text
  | bindingRejected drawable skin reason =>
    "binding " ++ skin.text ++ " to " ++ drawable.text ++ " rejected: " ++ reason

end Silhouette
