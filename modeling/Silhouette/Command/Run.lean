import Silhouette.Command.DeriveCostume
import Silhouette.Service.Client

/-!
Carrying out a command line. The configuration file is read first and the client set up from it, so
that a command starts only with settings that can be used. Serving ends here with a relay that is
ready to listen.
-/
namespace Silhouette.Command

/-- What a command line needs from the outside: what becomes of requests, how images are decoded, and
new names. -/
structure Surroundings where
  network : HttpRequest → Exchange
  decode : ByteArray → Decoding
  fresh : FreshNames

/-- What a command came to. -/
inductive Conclusion where
  | written (path : Path)
  | derived (report : CostumeReport)
  | listening (relay : RelaySection) (allowed : List Http.Origin)

namespace Conclusion

/-- How a costume was placed, in words. -/
def placement (report : CostumeReport) : String :=
  match report.installation.mode with
  | .appended index =>
    "appended at #" ++ toString index ++ " of " ++ toString report.variants
  | .rebound => "bound onto the drawable"

/-- The lines that tell what a command came to. -/
def lines : Conclusion → List String
  | written path => [path.text]
  | derived report =>
    [report.installation.costume.name ++ ": " ++ placement report,
     "  asset: " ++ report.installation.assetId.text, "  saved: " ++ report.saved.text]
  | listening _ _ => []

end Conclusion

/-- The configuration that a command line names, or the usual one. -/
def configuration (files : FileTree) : Option Path → Except Failure Configuration
  | none => .ok .usual
  | some path =>
    match files.readText path with
    | .error e => .error (.reading path e)
    | .ok text =>
      match Configuration.read? text with
      | none => .error (.configuration path)
      | some c => .ok c

/-- The client for a command line. -/
def client (c : Configuration) (shared : SharedOptions) (bulk : Bool) : Except Failure Client :=
  match c.service.settings shared bulk with
  | .error e => .error (.settings e)
  | .ok config =>
    match Client.create config with
    | .error e => .error (.client e)
    | .ok client => .ok client

namespace RelaySection

/-- The section with what the command line says instead. -/
def overridden (s : RelaySection) (bind : Option Net.SocketAddress) (saveDir : Option Path) :
    RelaySection :=
  { s with bind := bind.getD s.bind, saveDir := saveDir.getD s.saveDir }

/-- Makes a relay ready to listen. -/
def listen (s : RelaySection) : Except Failure Conclusion :=
  match Http.Origin.parseAll s.allowedOrigins with
  | .error e => .error (.origin e)
  | .ok allowed => .ok (.listening s allowed)

end RelaySection

namespace Line

/-- Whether an action is work in bulk. -/
def isBulk (line : Line) : Bool :=
  match line.action with
  | .remove _ _ => true
  | _ => false

/-- Carries out the action of a command line with a client. -/
def act (line : Line) (w : Surroundings) (c : Configuration) (client : Client)
    (files : FileTree) : Outcome Conclusion :=
  let service := client.service w.network
  match line.action with
  | .remove source destination =>
    (removeFile service files source destination).map .written
  | .costume source name legacy folder =>
    (CostumeJob.run ⟨source, name, legacy, folder⟩ ⟨c.removal, w.decode, service, ⟨0⟩⟩ w.fresh
      files).map .derived
  | .serve bind saveDir => ⟨(c.relay.overridden bind saveDir).listen, files, []⟩

/-- Carries out a command line. -/
def run (line : Line) (w : Surroundings) (files : FileTree) : Outcome Conclusion :=
  match configuration files line.shared.config with
  | .error e => .untouched files e
  | .ok c =>
    match client c line.shared line.isBulk with
    | .error e => .untouched files e
    | .ok client => line.act w c client files

end Line

end Silhouette.Command
