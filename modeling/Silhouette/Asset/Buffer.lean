import Silhouette.Bytes.Equality

/-!
The shapes in which a host keeps image data, and their common meaning: a non-empty byte string. A
view names a window of a larger buffer by offset and length, which need not lie inside it.
-/
namespace Silhouette

/-- Why a buffer holds no image data. -/
inductive BufferError where
  | empty
  | viewOutOfBounds (offset len capacity : Nat)
  deriving DecidableEq, Repr

/-- The text of a buffer error. -/
def BufferError.message : BufferError → String
  | empty => "buffer is empty"
  | viewOutOfBounds offset len capacity =>
    "view of " ++ toString len ++ " bytes at offset " ++ toString offset ++
      " exceeds buffer of " ++ toString capacity ++ " bytes"

/-- Resident image data. Offset and length of a view are words of 64 bits. -/
inductive Buffer where
  | packed (data : ByteArray)
  | shared (data : ByteArray)
  | view (data : ByteArray) (offset len : UInt64)
  deriving DecidableEq

namespace Buffer

/-- The length that a buffer claims. -/
def size : Buffer → Nat
  | packed data => data.size
  | shared data => data.size
  | view _ _ len => len.toNat

/-- The bytes that a buffer names, empty or not. -/
def window : Buffer → Except BufferError ByteArray
  | packed data => .ok data
  | shared data => .ok data
  | view data offset len =>
    if offset.toNat + len.toNat ≤ data.size then
      .ok (data.extract offset.toNat (offset.toNat + len.toNat))
    else .error (.viewOutOfBounds offset.toNat len.toNat data.size)

/-- The image data of a buffer: the bytes that it names, which must not be empty. -/
def normalize (b : Buffer) : Except BufferError ByteArray :=
  match b.window with
  | .error e => .error e
  | .ok bytes => if bytes.size = 0 then .error .empty else .ok bytes

/-- The short description of plain bytes. -/
def bytesSummary (data : ByteArray) : String := "ImageBytes(" ++ toString data.size ++ " bytes)"

/-- The short description of a buffer. -/
def summary : Buffer → String
  | packed data => "Packed(" ++ toString data.size ++ " bytes)"
  | shared data => "Shared(" ++ toString data.size ++ " bytes)"
  | view data offset len =>
    "View(" ++ toString len.toNat ++ " bytes at " ++ toString offset.toNat ++ " of " ++
      toString data.size ++ ")"

end Buffer

end Silhouette
