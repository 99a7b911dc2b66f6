import CustodySigner.Curve
import CustodySigner.Derivation.Bip32
import CustodySigner.Derivation.Slip10
import CustodySigner.Suite

set_option autoImplicit false
set_option relaxedAutoImplicit false

/-!
The private key of a curve at a path below a seed.
-/

namespace CustodySigner

/-- The key at a path of the tree of BLS keys, where indices carry no hardened bit. -/
def PairingScheme.derive (P : PairingScheme) (seed : Bytes) (path : KeyPath) :
    Except CurveError Bytes :=
  match P.masterKey? seed with
  | none =>
    .error ⟨.derivationFailed, "EIP-2333 master key: " ++ Bls12381.EncodingError.badEncoding.message⟩
  | some master =>
    .ok (Bytes.ofNat 32 (path.components.foldl (fun secret c => P.childKey secret c.index) master))

/-- The private key that a curve derives from a seed at a path. -/
def Suite.derive (S : Suite) (curve : Curve) (seed : Bytes) (path : KeyPath) :
    Except CurveError Bytes :=
  match curve with
  | .secp256k1 => Bip32.derive S.mac S.secp256k1 seed path
  | .secp256r1 => Slip10.Secp256r1.derive S.mac S.secp256r1 S.attempts seed path
  | .ed25519 => .ok (Slip10.Ed25519.derive S.mac seed path)
  | .bls12381 => S.bls12381.derive seed path

end CustodySigner
