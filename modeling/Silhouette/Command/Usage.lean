import Silhouette.Net.SocketAddress

/-!
How the arguments of a command line are read. Each command has a level with the options that it
knows, the words that it wants in fixed places, and the commands below it. An option takes the value
attached to it or else the next argument, and no value is looked at before the next option or word
has been met; of two faults the one met first is therefore not always the one told.
-/
namespace Silhouette.Command

/-- Why a command line is not carried out. -/
inductive UsageError where
  | helpWanted
  | versionWanted
  | nothingGiven
  | commandMissing
  | wordMissing
  | unknownCommand
  | unknownArgument
  | badValue
  | badAddress
  | repeated
  | valueUnwanted
  deriving DecidableEq, Repr

/-- What an option or a word accepts as its value. -/
inductive ValueKind where
  | text
  | path
  | address
  | choice (words : List String)
  deriving DecidableEq, Repr

/-- Checks a value. A path is not empty. -/
def ValueKind.check : ValueKind → String → Except UsageError Unit
  | text, _ => .ok ()
  | path, s => if s = "" then .error .badValue else .ok ()
  | address, s => if (Net.SocketAddress.parse? s).isSome then .ok () else .error .badAddress
  | choice words, s => if words.contains s then .ok () else .error .badValue

/-- What an option does. -/
inductive OptionRole where
  | flag
  | takes (kind : ValueKind)
  | help
  | version
  deriving DecidableEq, Repr

/-- What may stand on one level of a command line. -/
structure Level where
  options : List (String × OptionRole)
  words : List (String × ValueKind)
  commands : List String

/-- An argument by its first characters. -/
inductive Argument where
  | divider
  | option (name : String) (attached : Option String)
  | letter (c : Char)
  | word (s : String)
  deriving DecidableEq, Repr

/-- Tells what an argument looks like. A single hyphen is a word. -/
def Argument.ofText (s : String) : Argument :=
  match s.toList with
  | ['-', '-'] => divider
  | '-' :: '-' :: rest =>
    let attached :=
      match rest.dropWhile (· ≠ '=') with
      | [] => none
      | _ :: value => some (String.ofList value)
    option (String.ofList (rest.takeWhile (· ≠ '='))) attached
  | '-' :: c :: _ => letter c
  | _ => word s

/-- The options that have a letter. -/
def letterOption? (c : Char) : Option String :=
  if c = 'h' then some "help" else if c = 'V' then some "version" else none

/-- An option or a word that has been met but not checked, with its value if that is known. -/
structure Pending where
  name : String
  kind : ValueKind
  value : Option String

/-- What has been read on a level: checked values by name, what is pending, and the places of words
that are still free. -/
structure Reading where
  given : List (String × String)
  pending : Option Pending
  free : List (String × ValueKind)

namespace Reading

/-- The value under a name. -/
def value? (r : Reading) (name : String) : Option String :=
  (r.given.find? fun g => g.1 = name).map Prod.snd

/-- Takes a value in. Nothing is given twice. -/
def accept (r : Reading) (name : String) (kind : ValueKind) (value : String) :
    Except UsageError Reading :=
  if (r.value? name).isSome then .error .repeated
  else
    match kind.check value with
    | .error e => .error e
    | .ok () => .ok { r with given := r.given ++ [(name, value)] }

/-- Takes in what is pending; it needs a value by now. -/
def settle (r : Reading) : Except UsageError Reading :=
  match r.pending with
  | none => .ok r
  | some ⟨_, _, none⟩ => .error .badValue
  | some ⟨name, kind, some value⟩ => { r with pending := none }.accept name kind value

/-- Whether the next argument may be the value of an option. -/
def isWaiting (r : Reading) : Bool :=
  match r.pending with
  | some ⟨_, _, none⟩ => true
  | _ => false

end Reading

namespace Level

/-- The beginning of a level. -/
def start (l : Level) : Reading := ⟨[], none, l.words⟩

/-- Meets an option. An unknown option, or a value where none is wanted, is told at once; anything
else after what is pending. -/
def meetOption (l : Level) (r : Reading) (name : String) (attached : Option String) :
    Except UsageError Reading :=
  match l.options.lookup name, attached with
  | none, _ => .error .unknownArgument
  | some (.takes kind), some value => do (← r.settle).accept name kind value
  | some (.takes kind), none => do return { ← r.settle with pending := some ⟨name, kind, none⟩ }
  | some _, some _ => .error .valueUnwanted
  | some .flag, none => do (← r.settle).accept name .text ""
  | some .help, none => do let _ ← r.settle; .error .helpWanted
  | some .version, none => do let _ ← r.settle; .error .versionWanted

/-- Meets a word, which takes the next free place. -/
def meetWord (l : Level) (afterDivider : Bool) (r : Reading) (s : String) :
    Except UsageError Reading :=
  match r.free with
  | (name, kind) :: free => do
    return { ← r.settle with pending := some ⟨name, kind, some s⟩, free }
  | [] =>
    if l.commands = [] ∨ (afterDivider ∧ l.commands.contains s) then .error .unknownArgument
    else .error .unknownCommand

/-- Meets an argument that is neither behind the divider nor the divider itself. -/
def meet (l : Level) (r : Reading) : Argument → Except UsageError Reading
  | .divider => .ok r
  | .option name attached => l.meetOption r name attached
  | .letter c =>
    match letterOption? c with
    | none => .error .unknownArgument
    | some name => l.meetOption r name none
  | .word s =>
    match r.pending with
    | some ⟨name, kind, none⟩ => .ok { r with pending := some ⟨name, kind, some s⟩ }
    | _ => l.meetWord false r s

/-- Reads a level to its end, or up to the name of a command, which comes back with the arguments
behind it. Behind the divider every argument is a word. -/
def read (l : Level) (afterDivider : Bool) (r : Reading) :
    List String → Except UsageError (Reading × Option (String × List String))
  | [] => .ok (r, none)
  | s :: rest =>
    if afterDivider then do read l true (← l.meetWord true r s) rest
    else if !r.isWaiting && l.commands.contains s then .ok (r, some (s, rest))
    else
      let argument := Argument.ofText s
      do read l (argument == .divider) (← l.meet r argument) rest

end Level

end Silhouette.Command
