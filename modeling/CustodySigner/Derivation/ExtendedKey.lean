import CustodySigner.Bytes

set_option autoImplicit false
set_option relaxedAutoImplicit false

/-!
Extended keys: a secret key with the chain code that its children are derived from. The two are the
halves of a keyed hash.
-/

namespace CustodySigner

/-- A secret key and its chain code, 32 bytes each. -/
structure ExtendedKey where
  key : Bytes
  chainCode : Bytes
deriving DecidableEq, Repr

namespace ExtendedKey

def ofHash (hash : Bytes) : ExtendedKey :=
  ⟨hash.take 32, hash.drop 32⟩

def scalar (k : ExtendedKey) : Nat :=
  Bytes.toNat k.key

end ExtendedKey

def indexBytes (index : UInt32) : Bytes :=
  Bytes.ofNat 4 index.toNat

end CustodySigner
