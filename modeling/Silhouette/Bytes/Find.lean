/-!
Where bytes occur in other bytes. The search goes from left to right and gives the first place.
-/
namespace Silhouette.Bytes

/-- Whether `pattern` stands in `data` at place `i`. -/
def occursAt (data : ByteArray) (i : Nat) : List UInt8 → Bool
  | [] => true
  | b :: rest => if _ : i < data.size then data[i] == b && occursAt data (i + 1) rest else false

/-- The first place from `i` on at which `pattern` stands in `data`. -/
def find? (data : ByteArray) (pattern : List UInt8) (i : Nat) : Option Nat :=
  if occursAt data i pattern then some i
  else if i < data.size then find? data pattern (i + 1)
  else none
  termination_by data.size - i

/-- The bytes of `data` from place `i` up to place `j`. -/
def between (data : ByteArray) (i j : Nat) : ByteArray := data.extract i j

end Silhouette.Bytes
