import Silhouette.Digest.Blake3
import Silhouette.Text.Hex

/-!
Asset ids: 32 bytes, the digest of the asset's content. An id is written as 64 lower-case
hexadecimal digits and read in either case; its short form is the first eight bytes.
-/
namespace Silhouette

/-- The id of an asset. -/
structure AssetId where
  bytes : List UInt8
  length_bytes : bytes.length = 32
  deriving DecidableEq, Repr

/-- Why something is no asset id. -/
inductive AssetIdError where
  | invalidLength (actual : Nat)
  | hexDecode (cause : Text.Hex.Error)
  deriving DecidableEq, Repr

namespace AssetId

instance : Inhabited AssetId := ⟨⟨List.replicate 32 0, rfl⟩⟩

/-- Takes exactly 32 bytes. -/
def ofBytes (bytes : List UInt8) : Except AssetIdError AssetId :=
  if h : bytes.length = 32 then .ok ⟨bytes, h⟩ else .error (.invalidLength bytes.length)

/-- The id of some content. -/
def compute (data : ByteArray) : AssetId := ⟨Blake3.digest data, Blake3.length_digest data⟩

/-- The 64 digits of an id. -/
def text (id : AssetId) : String := Text.Hex.encode id.bytes

/-- The first 16 digits of an id. -/
def short (id : AssetId) : String := Text.Hex.encode (id.bytes.take 8)

/-- Reads an id; faults in the digits are reported before a wrong length. -/
def parse (s : String) : Except AssetIdError AssetId :=
  match Text.Hex.decode s with
  | .error e => .error (.hexDecode e)
  | .ok bytes => ofBytes bytes

/-- The order of two byte strings, the first difference deciding. -/
def compareBytes : List UInt8 → List UInt8 → Ordering
  | [], [] => .eq
  | [], _ :: _ => .lt
  | _ :: _, [] => .gt
  | a :: as, b :: bs => if a < b then .lt else if b < a then .gt else compareBytes as bs

/-- Ids are ordered byte by byte. -/
instance : Ord AssetId := ⟨fun a b => compareBytes a.bytes b.bytes⟩

end AssetId

/-- The text of an asset id error. -/
def AssetIdError.message : AssetIdError → String
  | invalidLength actual => "invalid asset id length: expected 32, got " ++ toString actual
  | hexDecode cause => "hex decode error: " ++ cause.message

end Silhouette
