import CustodySigner.Derivation.ExtendedKey
import CustodySigner.Scheme.Secp256r1
import CustodySigner.KeyPath

set_option autoImplicit false
set_option relaxedAutoImplicit false

/-!
Derivation by SLIP-0010. On secp256r1 a hash that gives no key is replaced by another one until it
does; on Ed25519 every hash gives a key, and every child is hardened.
-/

namespace CustodySigner.Slip10

variable (mac : Bytes → Bytes → Bytes)

namespace Secp256r1

variable (G : CurveGroup)

def label : Bytes := Bytes.ofText "Nist256p1 seed"

/-- The master key is the first scalar among `code`, its hash, the hash of that and so on. -/
def master? : (attempts : Nat) → (code : Bytes) → Option ExtendedKey
  | 0, _ => none
  | attempts + 1, code =>
    let key := ExtendedKey.ofHash code
    if Ecdsa.isScalar G key.scalar then some key else master? attempts (mac label code)

/-- The child of a parent with the value `parent`, from `data` or the data of a later attempt. -/
def child? (parent : Nat) (chainCode : Bytes) (index : UInt32) :
    (attempts : Nat) → (data : Bytes) → Option ExtendedKey
  | 0, _ => none
  | attempts + 1, data =>
    let hash := ExtendedKey.ofHash (mac chainCode data)
    let key := (hash.scalar + parent) % G.order
    if hash.scalar < G.order && key ≠ 0 then some ⟨Bytes.ofNat 32 key, hash.chainCode⟩
    else child? parent chainCode index attempts (1 :: hash.chainCode ++ indexBytes index)

def childData (parent : ExtendedKey) (c : PathComponent) : Except CurveError Bytes := do
  let head ← if c.hardened then pure (0 :: parent.key) else Scheme.Secp256r1.publicKey G parent.key
  pure (head ++ indexBytes c.fullIndex)

def exhausted : CurveError := ⟨.derivationFailed, "no hash gives a key"⟩

def child (attempts : Nat) (parent : ExtendedKey) (c : PathComponent) :
    Except CurveError ExtendedKey := do
  if G.order ≤ parent.scalar then throw ⟨.derivationFailed, "Parent key out of range"⟩
  let data ← childData G parent c
  match child? mac G parent.scalar parent.chainCode c.fullIndex attempts data with
  | some key => pure key
  | none => throw exhausted

def derive (attempts : Nat) (seed : Bytes) (path : KeyPath) : Except CurveError Bytes :=
  match master? mac G attempts (mac label seed) with
  | none => .error exhausted
  | some key => (path.components.foldlM (child mac G attempts) key).map (·.key)

end Secp256r1

namespace Ed25519

def label : Bytes := Bytes.ofText "ed25519 seed"

def child (parent : ExtendedKey) (c : PathComponent) : ExtendedKey :=
  let index := c.index ||| PathComponent.hardenedBit
  ExtendedKey.ofHash (mac parent.chainCode (0 :: parent.key ++ indexBytes index))

def derive (seed : Bytes) (path : KeyPath) : Bytes :=
  (path.components.foldl (child mac) (ExtendedKey.ofHash (mac label seed))).key

end Ed25519

end CustodySigner.Slip10
