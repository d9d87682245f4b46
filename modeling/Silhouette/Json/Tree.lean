import Silhouette.Json.Token

/-!
JSON values as trees. Reading puts the tokens together one by one and keeps the containers that are
still open on a stack, so nesting has no limit here; members of an object stay in their order, and a
key may occur more than once.
-/
namespace Silhouette.Json

/-- A JSON value as it was spelled. -/
inductive Tree where
  | null
  | bool (b : Bool)
  | number (l : Literal)
  | string (s : List Piece)
  | array (items : List Tree)
  | object (members : List (List Piece × Tree))
  deriving Repr, Inhabited

/-- A container that is still open, with what it holds so far, last first. An open object waits for
the value of a key. -/
inductive Frame where
  | array (items : List Tree)
  | object (members : List (List Piece × Tree)) (key : List Piece)
  deriving Repr

/-- What may come next, and the open containers, innermost first. -/
inductive Progress where
  | value (stack : List Frame)
  | firstItem (stack : List Frame)
  | firstKey (stack : List Frame)
  | key (members : List (List Piece × Tree)) (stack : List Frame)
  | colon (members : List (List Piece × Tree)) (key : List Piece) (stack : List Frame)
  | done (tree : Tree) (stack : List Frame)
  deriving Repr

namespace Progress

/-- Begins a value. -/
def start (stack : List Frame) : Token → Option Progress
  | .null => some (.done .null stack)
  | .bool b => some (.done (.bool b) stack)
  | .number l => some (.done (.number l) stack)
  | .string s => some (.done (.string s) stack)
  | .openArray => some (.firstItem stack)
  | .openObject => some (.firstKey stack)
  | _ => none

/-- Takes one token in. -/
def step : Progress → Token → Option Progress
  | .value stack, t => start stack t
  | .firstItem stack, .closeArray => some (.done (.array []) stack)
  | .firstItem stack, t => start (.array [] :: stack) t
  | .firstKey stack, .closeObject => some (.done (.object []) stack)
  | .firstKey stack, .string k => some (.colon [] k stack)
  | .key members stack, .string k => some (.colon members k stack)
  | .colon members k stack, .colon => some (.value (.object members k :: stack))
  | .done t (.array items :: stack), .comma => some (.value (.array (t :: items) :: stack))
  | .done t (.array items :: stack), .closeArray =>
    some (.done (.array (t :: items).reverse) stack)
  | .done t (.object members k :: stack), .comma => some (.key ((k, t) :: members) stack)
  | .done t (.object members k :: stack), .closeObject =>
    some (.done (.object ((k, t) :: members).reverse) stack)
  | _, _ => none

end Progress

namespace Tree

/-- The tree that some tokens make. -/
def ofTokens? (tokens : List Token) : Option Tree :=
  match tokens.foldlM Progress.step (.value []) with
  | some (.done tree []) => some tree
  | _ => none

/-- Reads a JSON text. -/
def read? (s : String) : Option Tree := (Token.scan s.toList).bind ofTokens?

end Tree

end Silhouette.Json
