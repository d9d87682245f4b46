/-!
Byte arrays are equal if their bytes are. All types that hold byte arrays decide equality by this
one instance.
-/
namespace Silhouette

instance (priority := 2000) decidableEqByteArray : DecidableEq ByteArray :=
  ByteArray.instDecidableEq

end Silhouette
