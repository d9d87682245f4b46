import Silhouette.Target
import Silhouette.Json.Decode
import Silhouette.Json.Text

/-!
Rotation centers and capabilities in JSON. A center is an object with both coordinates or an array
of the two; a capability is a word, also as the only key of an object with the value null.
-/
namespace Silhouette

namespace RotationCenter

/-- Reads a center from a tree. -/
def ofTree? : Json.Tree → Option RotationCenter
  | .object members =>
    match Json.Tree.fields? ["x", "y"] members with
    | some [x, y] => do
      let x ← Json.required? Json.Tree.float? x
      let y ← Json.required? Json.Tree.float? y
      return ⟨x, y⟩
    | _ => none
  | .array [x, y] => do
    let x ← x.float?
    let y ← y.float?
    return ⟨x, y⟩
  | _ => none

/-- Reads a center. -/
def ofJson? (s : String) : Option RotationCenter := (Json.Tree.read? s).bind ofTree?

end RotationCenter

namespace Capability

/-- The word for a capability. -/
def word : Capability → String
  | variantList => "variant_list"
  | directBinding => "direct_binding"

/-- The capability with a word. -/
def ofWord? (s : String) : Option Capability :=
  [variantList, directBinding].find? fun c => c.word = s

/-- The JSON text of a capability. -/
def json (c : Capability) : String := Json.quote c.word

/-- Reads a capability from a tree. -/
def ofTree? : Json.Tree → Option Capability
  | .string s => (Json.text? s).bind ofWord?
  | .object [(k, .null)] => (Json.text? k).bind ofWord?
  | _ => none

/-- Reads a capability. -/
def ofJson? (s : String) : Option Capability := (Json.Tree.read? s).bind ofTree?

end Capability

end Silhouette
