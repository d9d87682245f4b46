import Silhouette.Text.Blank
import Silhouette.Json.Decode

/-!
The body of an error response. If it is JSON that gives one, a message is taken from the members
`error`, `message` and `detail`, the first of them that has a text; a blank message counts as none.
-/
namespace Silhouette

/-- The text of a body, and the message found in it. -/
structure ErrorBody where
  raw : String
  message : Option String
  deriving DecidableEq, Repr

namespace ErrorBody

open Json (Tree)

/-- The last member with a key, in an object that a key may occur in more than once. -/
def lastValue? (key : String) (members : List (List Json.Piece × Tree)) : Option Tree :=
  (members.reverse.find? fun m => Json.text? m.1 = some key).map Prod.snd

/-- The text of an `error` member: its own, or that of its `message` member. -/
def errorText : Tree → Option String
  | .string s => Json.text? s
  | .object members => (lastValue? "message" members).bind Tree.text?
  | _ => none

/-- An `error` member may be any sound value, nested in up to 126 containers of its own. -/
def anyValue? (t : Tree) : Option Tree := if t.sound 126 then some t else none

/-- The message that three optional members give; nothing if one of them cannot be read. -/
def messageOf? (error message detail : Option Tree) : Option (Option String) :=
  match Json.optional? anyValue? error, Json.optional? Tree.text? message,
    Json.optional? Tree.text? detail with
  | some error, some message, some detail =>
    some (((error.bind errorText).or message).or detail)
  | _, _, _ => none

/-- The message in a tree: an object with the three members, or an array of the three values. -/
def ofTree? : Tree → Option (Option String)
  | .object members =>
    match Tree.fields? ["error", "message", "detail"] members with
    | some [error, message, detail] => messageOf? error message detail
    | _ => none
  | .array [error, message, detail] => messageOf? (some error) (some message) (some detail)
  | _ => none

/-- Reads a body. Every text is one, with or without a message. -/
def parse (raw : String) : ErrorBody :=
  ⟨raw, (((Tree.read? raw).bind ofTree?).join).filter fun m => !Text.isBlankText m⟩

/-- What is shown of a body: the message, or else its text without blanks around it. -/
def text (b : ErrorBody) : String := b.message.getD (Text.trim b.raw)

end ErrorBody

end Silhouette
