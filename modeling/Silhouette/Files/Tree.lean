import Silhouette.Bytes.Equality
import Silhouette.Files.Error
import Silhouette.Files.Path
import Silhouette.Table

/-!
A file system as a value: what stands at every place below the root. Reading looks a path up;
writing and creating directories give a new value that differs at the written place only. Names are
at most 255 bytes long and paths less than 4096.
-/
namespace Silhouette

/-- What stands at a place. -/
inductive Entry where
  | file (content : ByteArray)
  | directory
  deriving DecidableEq

/-- A place: the names from the root down to it. -/
abbrev Place := List (List UInt8)

/-- Files and directories by place; the root itself is always a directory. -/
structure FileTree where
  table : Table Place Entry

namespace FileTree

/-- Only the root. -/
def empty : FileTree := ⟨Table.empty⟩

instance : Inhabited FileTree := ⟨empty⟩

/-- What stands at a place. -/
def entry? (t : FileTree) (place : Place) : Option Entry :=
  if place = [] then some .directory else t.table.get? place

/-- The content of the file at a place. -/
def content? (t : FileTree) (place : Place) : Option ByteArray :=
  match t.entry? place with
  | some (.file content) => some content
  | _ => none

/-- The parts of a path between its separators. -/
def parts : List UInt8 → List (List UInt8)
  | [] => [[]]
  | b :: rest =>
    if b = Path.separator then [] :: parts rest
    else
      match parts rest with
      | [] => [[b]]
      | name :: names => (b :: name) :: names

/-- The names of a path in their order, single points included. -/
def names (p : Path) : List (List UInt8) := (parts p.bytes).filter (· ≠ [])

/-- Follows names from one directory to another. -/
def follow (t : FileTree) (here : Place) : List (List UInt8) → Except IoError Place
  | [] => .ok here
  | name :: rest =>
    if name = [Path.point] then follow t here rest
    else if name = [Path.point, Path.point] then follow t here.dropLast rest
    else if 255 < name.length then .error .nameTooLong
    else
      match t.entry? (here ++ [name]) with
      | some .directory => follow t (here ++ [name]) rest
      | some (.file _) => .error .notDirectory
      | none => .error .notFound

/-- What a path leads to: a directory that it steps through, or a name in a directory. -/
inductive Spot where
  | directory (place : Place)
  | name (place : Place) (closed : Bool)

/-- Resolves a path. A name is closed if a separator follows it. -/
def resolve (t : FileTree) (p : Path) : Except IoError Spot :=
  if p.bytes.contains 0 then .error .nulInPath
  else if p.bytes = [] then .error .notFound
  else if 4096 ≤ p.bytes.length then .error .nameTooLong
  else
    let all := names p
    match all.getLast? with
    | none => .ok (.directory [])
    | some last =>
      if last = [Path.point] ∨ last = [Path.point, Path.point] then
        (t.follow [] all).map .directory
      else
        match t.follow [] all.dropLast with
        | .error e => .error e
        | .ok place =>
          if 255 < last.length then .error .nameTooLong
          else .ok (.name (place ++ [last]) (p.bytes.getLast? = some Path.separator))

/-- The content of a file. -/
def read (t : FileTree) (p : Path) : Except IoError ByteArray :=
  match t.resolve p with
  | .error e => .error e
  | .ok (.directory _) => .error .isDirectory
  | .ok (.name place closed) =>
    match t.entry? place with
    | none => .error .notFound
    | some .directory => .error .isDirectory
    | some (.file content) => if closed then .error .notDirectory else .ok content

/-- The text of a file. -/
def readText (t : FileTree) (p : Path) : Except IoError String :=
  match t.read p with
  | .error e => .error e
  | .ok content =>
    match Text.Utf8.decode? content with
    | none => .error .notText
    | some text => .ok text

/-- The tree with something else at a place. -/
def put (t : FileTree) (place : Place) (entry : Entry) : FileTree := ⟨t.table.put place entry⟩

/-- Gives a file a content; the file is created if there is none. -/
def write (t : FileTree) (p : Path) (content : ByteArray) : Except IoError FileTree :=
  match t.resolve p with
  | .error e => .error e
  | .ok (.directory _) => .error .isDirectory
  | .ok (.name place closed) =>
    match t.entry? place with
    | some .directory => .error .isDirectory
    | some (.file _) =>
      if closed then .error .notDirectory else .ok (t.put place (.file content))
    | none => if closed then .error .isDirectory else .ok (t.put place (.file content))

/-- Creates one directory in a directory that exists. -/
def createDirectory (t : FileTree) (p : Path) : Except IoError FileTree :=
  match t.resolve p with
  | .error e => .error e
  | .ok (.directory _) => .error .alreadyThere
  | .ok (.name place _) =>
    match t.entry? place with
    | some _ => .error .alreadyThere
    | none => .ok (t.put place .directory)

/-- Whether a path leads to a directory. -/
def isDirectory (t : FileTree) (p : Path) : Bool :=
  match t.resolve p with
  | .error _ => false
  | .ok (.directory _) => true
  | .ok (.name place _) => t.entry? place = some .directory

/-- Creates a directory unless it is there. -/
def ensureDirectory (t : FileTree) (p : Path) : Except IoError Unit × FileTree :=
  match t.createDirectory p with
  | .ok t => (.ok (), t)
  | .error e => if t.isDirectory p then (.ok (), t) else (.error e, t)

theorem length_parent?_lt {p q : Path} (h : p.parent? = some q) :
    q.bytes.length < p.bytes.length := by
  unfold Path.parent? at h
  split at h
  · simp at h
  · split at h
    · cases h
      simp
      omega
    · simp at h

/-- Creates a directory and those above it that are missing. The tree that comes back is the one
that is left, also after a failure on the way down. -/
def createDirectories (t : FileTree) (p : Path) : Except IoError Unit × FileTree :=
  if p.bytes = [] then (.ok (), t)
  else
    match t.createDirectory p with
    | .ok t => (.ok (), t)
    | .error e =>
      if e = .notFound then
        match _above : p.parent? with
        | none => (.error e, t)
        | some above =>
          match createDirectories t above with
          | (.error e, t) => (.error e, t)
          | (.ok (), t) => t.ensureDirectory p
      else if t.isDirectory p then (.ok (), t)
      else (.error e, t)
  termination_by p.bytes.length
  decreasing_by exact length_parent?_lt (by assumption)

end FileTree

end Silhouette
