import Silhouette.Command.Run
import Silhouette.Image.Decode

/-!
The program. It reads the files that its command line names, carries the command out on them, and
writes what the command has made. There is no transport here, so no request arrives, and a relay that
is ready says so and ends.
-/
namespace Silhouette.Program

open Command

/-- Nothing that is sent arrives. -/
def noTransport : HttpRequest → Exchange := fun _ => .unreachable "no transport"

/-- A name that has not been given before. -/
def freshName : IO Ulid := do return .ofNat (← IO.rand 0 0xffffffffffffffffffffffffffffffff)

/-- The files that a command line names. -/
def namedFiles (line : Line) : List Path :=
  line.shared.config.toList ++
    match line.action with
    | .remove source destination => source :: destination.toList
    | .costume source _ _ _ => [source]
    | .serve _ _ => []

/-- Takes in the file at a path, and the directory that it is or would be in. -/
def load (files : FileTree) (path : Path) : IO FileTree := do
  let files := (files.createDirectories (path.parent?.getD ⟨[]⟩)).2
  match ← (IO.FS.readBinFile path.text).toBaseIO with
  | .ok content => return (files.write path content).toOption.getD files
  | .error _ => return files

/-- Writes the file at a path. -/
def store (files : FileTree) (path : Path) : IO Unit :=
  match files.read path with
  | .ok content => IO.FS.writeBinFile path.text content
  | .error e => throw (IO.userError e.message)

/-- Writes what a command has made, and tells about it. -/
def conclude (files : FileTree) (c : Conclusion) : IO Unit := do
  match c with
  | .written path => store files path
  | .derived report =>
    IO.FS.createDirAll (report.saved.parent?.getD (Path.ofText ".")).text
    store files report.saved
  | .listening relay _ => IO.eprintln ("ready to listen on " ++ relay.bind.text)
  for line in c.lines do IO.println line

/-- Carries out a command line; gives the exit status. -/
def perform (line : Line) : IO UInt32 := do
  let before ← (namedFiles line).foldlM load FileTree.empty
  let fresh : FreshNames := ⟨⟨← freshName⟩, ⟨← freshName⟩, ⟨← freshName⟩⟩
  let outcome := line.run ⟨noTransport, Image.decode, fresh⟩ before
  match outcome.result with
  | .ok c =>
    conclude outcome.files c
    return 0
  | .error e =>
    IO.eprintln ("error: " ++ ": ".intercalate e.messages)
    return 1

end Silhouette.Program

/-- Reads the command line and carries it out. -/
def main (arguments : List String) : IO UInt32 := do
  let key ← IO.getEnv "CUTOUT_API_KEY"
  match Silhouette.Command.Line.parse ("cutout" :: arguments) key with
  | .ok line => Silhouette.Program.perform line
  | .error .versionWanted =>
    IO.println "cutout 0.1.0"
    return 0
  | .error e =>
    IO.eprintln Silhouette.Command.usage
    return if e = .helpWanted then 0 else 2
