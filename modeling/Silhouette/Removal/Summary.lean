import Silhouette.Host.Basic
import Silhouette.Removal.Settings
import Silhouette.Text.Quoted

/-!
Short descriptions of what takes part in a removal. They show its settings and hide the rest.
-/
namespace Silhouette

/-- The description of a host. -/
def Host.summary (_ : Host) : String := "HostHandles \x7b .. \x7d"

namespace RemovalSettings

/-- The description of what resolves data. -/
def resolverSummary (s : RemovalSettings) : String :=
  "SourceResolver \x7b load_timeout: " ++ s.loadTimeout.text ++ ", .. \x7d"

/-- The description of what installs results. -/
def installerSummary (s : RemovalSettings) : String :=
  "DerivedAssetInstaller \x7b decode_timeout: " ++ s.decodeTimeout.text ++ ", name_suffix: " ++
    Text.Quoted.text s.nameSuffix ++ ", .. \x7d"

/-- The description of a whole remover that is at rest. -/
def removerSummary (s : RemovalSettings) : String :=
  "BackgroundRemover \x7b resolver: " ++ s.resolverSummary ++ ", installer: " ++
    s.installerSummary ++ ", busy: BusyFlags \x7b processing: \x7b\x7d \x7d, .. \x7d"

end RemovalSettings

end Silhouette
