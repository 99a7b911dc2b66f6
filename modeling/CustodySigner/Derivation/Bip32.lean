import CustodySigner.Derivation.ExtendedKey
import CustodySigner.Ecdsa.Basic
import CustodySigner.Ecdsa.PublicKey
import CustodySigner.Error
import CustodySigner.KeyPath

set_option autoImplicit false
set_option relaxedAutoImplicit false

/-!
Derivation of secp256k1 keys by BIP-32. A hash that is no scalar ends the derivation with an error,
and so does a path of more than 255 levels.
-/

namespace CustodySigner.Bip32

variable (mac : Bytes → Bytes → Bytes) (G : CurveGroup)

def label : Bytes := Bytes.ofText "Bitcoin seed"

def maximumDepth : Nat := 255

def master? (seed : Bytes) : Option ExtendedKey :=
  let key := ExtendedKey.ofHash (mac label seed)
  if Ecdsa.isScalar G key.scalar then some key else none

/-- What is hashed for a child: the parent's secret key if the child is hardened, else its public
key, and the index. -/
def childData? (parent : ExtendedKey) (c : PathComponent) : Option Bytes :=
  let head :=
    if c.hardened then some (0 :: parent.key)
    else Ecdsa.compress? G (Ecdsa.publicPoint G parent.scalar)
  head.map (· ++ indexBytes c.fullIndex)

def child? (parent : ExtendedKey) (c : PathComponent) : Option ExtendedKey :=
  match childData? G parent c with
  | none => none
  | some data =>
    let hash := ExtendedKey.ofHash (mac parent.chainCode data)
    let key := (hash.scalar + parent.scalar) % G.order
    if Ecdsa.isScalar G hash.scalar && key ≠ 0 then
      some ⟨Bytes.ofNat 32 key, hash.chainCode⟩
    else none

/-- The first index that has the hardened bit. -/
def badIndex? (components : List PathComponent) : Option UInt32 :=
  (components.find? fun c => PathComponent.hardenedBit ≤ c.index).map (·.index)

/-- Descends from a key at the given depth. -/
def descend (depth : Nat) (key : ExtendedKey) :
    List PathComponent → Except CurveError ExtendedKey
  | [] => .ok key
  | c :: rest =>
    if depth = maximumDepth then
      .error ⟨.derivationFailed, "BIP32 derivation: cannot derive child of depth 256 or higher"⟩
    else
      match child? mac G key c with
      | none => .error ⟨.derivationFailed, "BIP32 derivation: secp256k1 error"⟩
      | some key => descend (depth + 1) key rest

/-- The key at a path below the master key of a seed. -/
def derive (seed : Bytes) (path : KeyPath) : Except CurveError Bytes :=
  match master? mac G seed with
  | none => .error ⟨.derivationFailed, "BIP32 master key: secp256k1 error"⟩
  | some key =>
    match badIndex? path.components with
    | some index =>
      .error ⟨.derivationFailed, "Invalid child number: child number " ++ toString index.toNat ++
        " is invalid (not within [0, 2^31 - 1])"⟩
    | none => (descend mac G 0 key path.components).map (·.key)

end CustodySigner.Bip32
