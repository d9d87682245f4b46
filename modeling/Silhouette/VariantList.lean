import Silhouette.Costume

/-!
The variants of one target: a list that is never empty and only grows, with one entry selected. No
two entries share a costume id or an asset.
-/
namespace Silhouette

/-- Why a list refuses an operation. -/
inductive VariantError where
  | empty
  | indexOutOfRange (index len : Nat)
  | duplicateCostume (id : CostumeId)
  | duplicateAsset (id : AssetId)
  deriving DecidableEq, Repr

/-- The text of a list error. -/
def VariantError.message : VariantError → String
  | empty => "costume list cannot be empty"
  | indexOutOfRange index len =>
    "costume index " ++ toString index ++ " out of range (len " ++ toString len ++ ")"
  | duplicateCostume id => "costume " ++ id.text ++ " already present"
  | duplicateAsset id => "asset " ++ id.text ++ " already held by this target"

/-- The entries of a list, and the place of the selected one among them. -/
structure VariantList where
  entries : List Costume
  current : Nat
  current_lt : current < entries.length

namespace VariantList

/-- A list of one costume, which is selected. -/
def singleton (c : Costume) : VariantList := ⟨[c], 0, by simp⟩

/-- The number of entries. -/
def size (l : VariantList) : Nat := l.entries.length

/-- The selected entry. -/
def selected (l : VariantList) : Costume := l.entries.get ⟨l.current, l.current_lt⟩

/-- The entry at a place. -/
def get? (l : VariantList) (index : Nat) : Option Costume := l.entries[index]?

/-- The first objection that some entries raise to a costume. An entry objects to its own costume
id before it objects to its own asset. -/
def objection (c : Costume) : List Costume → Option VariantError
  | [] => none
  | entry :: rest =>
    if entry.id = c.id then some (.duplicateCostume c.id)
    else if entry.asset.id = c.asset.id then some (.duplicateAsset c.asset.id)
    else objection c rest

/-- Whether a costume may be appended. -/
def checkAppend (l : VariantList) (c : Costume) : Except VariantError Unit :=
  match objection c l.entries with
  | some e => .error e
  | none => .ok ()

/-- The list with one more entry at its end and the same selection. -/
def append (l : VariantList) (c : Costume) : VariantList :=
  ⟨l.entries ++ [c], l.current, by
    have := l.current_lt
    simp
    omega⟩

/-- Appends a costume unless an entry objects. -/
def push (l : VariantList) (c : Costume) : Except VariantError VariantList :=
  match l.checkAppend c with
  | .error e => .error e
  | .ok () => .ok (l.append c)

/-- Selects the entry at a place. -/
def select (l : VariantList) (index : Nat) : Except VariantError VariantList :=
  if h : index < l.entries.length then .ok ⟨l.entries, index, h⟩
  else .error (.indexOutOfRange index l.entries.length)

/-- Appends costumes in their order, up to the first objection. -/
def pushAll (l : VariantList) : List Costume → Except VariantError VariantList
  | [] => .ok l
  | c :: rest =>
    match l.push c with
    | .error e => .error e
    | .ok l => l.pushAll rest

/-- The list of some costumes with the entry at a place selected. -/
def ofList (costumes : List Costume) (current : Nat) : Except VariantError VariantList :=
  match costumes with
  | [] => .error .empty
  | first :: rest =>
    match (singleton first).pushAll rest with
    | .error e => .error e
    | .ok l => l.select current

end VariantList

end Silhouette
