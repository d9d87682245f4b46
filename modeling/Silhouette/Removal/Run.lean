import Silhouette.Removal.Resolve
import Silhouette.Removal.Install
import Silhouette.Removal.Busy

/-!
Removing the background of a target's current costume: the data is resolved, the service asked, and
the result installed, one after the other and each once. The target's busy flag is held meanwhile and
let go however it ends.
-/
namespace Silhouette

/-- What does not change from one removal to the next. -/
structure Remover where
  settings : RemovalSettings
  decode : ByteArray → Decoding
  service : Service
  delay : Duration

/-- What removals share: the host, the busy flags, and the requests sent so far. -/
structure RemovalState where
  host : Host
  busy : BusyFlags
  sent : List ServiceRequest

namespace RemovalState

instance : Inhabited RemovalState := ⟨⟨default, default, []⟩⟩

/-- The state with another host. -/
def withHost (s : RemovalState) (host : Host) : RemovalState := { s with host }

end RemovalState

namespace Remover

/-- The request for a resolved source. -/
def requestFor (source : ResolvedSource) : ServiceRequest :=
  ⟨source.bytes, source.filename, some source.format, none⟩

/-- Sends a request. -/
def ask (r : Remover) (s : RemovalState) (source : ResolvedSource) :
    Except RemovalError ServiceOutput × RemovalState :=
  let request := requestFor source
  let answer :=
    match r.service s.sent request with
    | .error e => .error (.ofService e)
    | .ok output => .ok output
  (answer, { s with sent := s.sent ++ [request] })

/-- Installs an answer. -/
def installAnswer (r : Remover) (fresh : CostumeId) (s : RemovalState) (target : Target)
    (output : ServiceOutput) : Except RemovalError Installation × RemovalState × Target :=
  let (result, host, target') :=
    Install.install r.settings r.decode s.host target target.current output fresh
  (result, s.withHost host, target')

/-- The three stages, for a target whose flag is held. -/
def run (r : Remover) (fresh : CostumeId) (s : RemovalState) (target : Target) :
    Except RemovalError Installation × RemovalState × Target :=
  match Resolve.resolve r.settings.loadTimeout s.host target.current with
  | (.error e, host) => (.error e, s.withHost host, target)
  | (.ok source, host) =>
    match r.ask (s.withHost host) source with
    | (.error e, s) => (.error e, s, target)
    | (.ok output, s) => r.installAnswer fresh s target output

/-- Removes the background of a target's current costume; the new costume gets the given name. -/
def removeBackground (r : Remover) (fresh : CostumeId) (s : RemovalState) (target : Target) :
    Except RemovalError Installation × RemovalState × Target :=
  match s.busy.acquire target.id with
  | .error e => (.error e, s, target)
  | .ok busy =>
    let (result, s, target') := r.run fresh { s with busy } target
    (result, { s with busy := s.busy.release target.id }, target')

end Remover

end Silhouette
