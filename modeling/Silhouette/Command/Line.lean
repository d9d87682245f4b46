import Silhouette.Command.Usage
import Silhouette.Files.Path

/-!
The command line: three commands with their own arguments, and the options that all of them share. A
shared option may stand before or behind the command's name, and behind it wins. The key may also come
from the environment.
-/
namespace Silhouette.Command

/-- How the log is written. -/
inductive LogFormat where
  | text
  | json
  deriving DecidableEq, Repr

/-- What is to be done. -/
inductive Action where
  | remove (source : Path) (destination : Option Path)
  | costume (source : Path) (name : Option String) (legacy : Bool) (folder : Option Path)
  | serve (bind : Option Net.SocketAddress) (saveDir : Option Path)
  deriving DecidableEq, Repr

/-- The options that all commands share. -/
structure SharedOptions where
  config : Option Path
  key : Option String
  endpoint : Option String
  log : LogFormat
  deriving DecidableEq, Repr

/-- A command line that has been understood. -/
structure Line where
  shared : SharedOptions
  action : Action
  deriving DecidableEq, Repr

/-- The levels of the shared options and of the three commands. -/
def sharedOptions : List (String × OptionRole) :=
  [("config", .takes .path), ("api-key", .takes .text), ("endpoint", .takes .text),
   ("log-format", .takes (.choice ["text", "json"])), ("help", .help)]

/-- How the program is used, in short. -/
def usage : String := "\n".intercalate [
  "Usage: cutout [OPTIONS] <COMMAND>", "", "Commands:",
  "  remove <src> [dst]", "  costume [--name <name>] [--legacy] [--out <out>] <src>",
  "  serve [--bind <bind>] [--save-dir <save-dir>]", "  help [COMMAND]", "", "Options:",
  "  --config <config>", "  --api-key <api-key>", "  --endpoint <endpoint>",
  "  --log-format <log-format>", "  -h, --help", "  -V, --version"]

/-- The level in front of a command. -/
def outerLevel : Level :=
  ⟨sharedOptions ++ [("version", .version)], [], ["remove", "costume", "serve", "help"]⟩

/-- The level behind `remove`. -/
def removeLevel : Level := ⟨sharedOptions, [("src", .path), ("dst", .path)], []⟩

/-- The level behind `costume`. -/
def costumeLevel : Level :=
  ⟨[("name", .takes .text), ("legacy", .flag), ("out", .takes .path)] ++ sharedOptions,
   [("src", .path)], []⟩

/-- The level behind `serve`. -/
def serveLevel : Level :=
  ⟨[("bind", .takes .address), ("save-dir", .takes .path)] ++ sharedOptions, [], []⟩

/-- What asking for help comes to: the words behind `help` name a command, and no command has others
below it. -/
def helpOutcome : List String → UsageError
  | [] => .helpWanted
  | [word] => if outerLevel.commands.contains word then .helpWanted else .unknownCommand
  | _ => .unknownCommand

namespace Reading

/-- The path under a name. -/
def path? (r : Reading) (name : String) : Option Path := (r.value? name).map Path.ofText

/-- The path that a command cannot do without. -/
def source (r : Reading) : Except UsageError Path :=
  match r.path? "src" with
  | none => .error .wordMissing
  | some path => .ok path

end Reading

/-- Reads what stands behind a command's name. -/
def readAction (name : String) (arguments : List String) : Except UsageError (Reading × Action) := do
  let finish (l : Level) : Except UsageError Reading := do
    let (r, _) ← l.read false l.start arguments
    r.settle
  if name = "remove" then
    let r ← finish removeLevel
    return (r, .remove (← r.source) (r.path? "dst"))
  else if name = "costume" then
    let r ← finish costumeLevel
    return (r, .costume (← r.source) (r.value? "name") (r.value? "legacy").isSome (r.path? "out"))
  else
    let r ← finish serveLevel
    return (r, .serve ((r.value? "bind").bind Net.SocketAddress.parse?) (r.path? "save-dir"))

namespace SharedOptions

/-- The options given in front of and behind a command's name; the environment comes last. -/
def ofReadings (outer inner : Reading) (environment : Option String) : SharedOptions :=
  let value := fun name => (inner.value? name).or (outer.value? name)
  { config := (value "config").map Path.ofText
    key := (value "api-key").or environment
    endpoint := value "endpoint"
    log := if value "log-format" = some "json" then .json else .text }

end SharedOptions

namespace Line

/-- Understands a command line. The first argument is the program's own name, and the environment may
hold a key. What stands behind a command's name is settled before what is pending in front of it. -/
def parse (arguments : List String) (environment : Option String) : Except UsageError Line := do
  let (outer, next) ← outerLevel.read false outerLevel.start (arguments.drop 1)
  match next with
  | none =>
    let outer ← outer.settle
    if outer.given = [] ∧ environment = none then .error .nothingGiven
    else .error .commandMissing
  | some (name, rest) =>
    if name = "help" then .error (helpOutcome rest)
    else
      let (inner, action) ← readAction name rest
      let outer ← outer.settle
      return ⟨.ofReadings outer inner environment, action⟩

end Line

end Silhouette.Command
