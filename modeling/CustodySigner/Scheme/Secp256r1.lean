import CustodySigner.Scheme.Ecdsa

set_option autoImplicit false
set_option relaxedAutoImplicit false

/-!
ECDSA over secp256r1. Nonces are made from the digest as it is, and the first that is a scalar has to
give a signature; signatures in high form are valid too, and a half that is zero or too large is an
error; public keys may be compressed, uncompressed or compact.
-/

namespace CustodySigner.Scheme.Secp256r1

open Ecdsa

variable (G : CurveGroup) (attempts : Nat) (nonce : Bytes → Bytes → Nat → Nat)

/-- An error that says nothing about its cause. -/
def blankError : String := "signature::Error \x7b source: None \x7d"

def secret (key : Bytes) : Except CurveError Nat :=
  ecdsaSecret G ("Invalid signing key: " ++ blankError) key

def publicKey (key : Bytes) : Except CurveError Bytes := do
  compressed G (publicPoint G (← secret G key))

def signature (key digest : Bytes) : Except CurveError (Signature × RecoveryId) := do
  let n ← secret G key
  let digest ← digest32 digest
  match (firstScalar? G attempts (nonce key digest)).bind fun k =>
      signWith? G k n (Bytes.toNat digest) with
  | some found => pure found
  | none => throw ⟨.signingFailed, "signature error"⟩

def readPublicKey (key : Bytes) : Except CurveError G.Point :=
  if key.length = 33 || key.length = 65 then
    match EncodedPoint.ofBytes? key with
    | none | some (.hybrid _ _ _) => .error ⟨.invalidPublicKey, "Invalid point: PointEncoding"⟩
    | some point =>
      match point.point? G with
      | some P => .ok P
      | none => .error ⟨.invalidPublicKey, "Invalid key: " ++ blankError⟩
  else
    .error ⟨.invalidPublicKey, "Public key must be 33 or 65 bytes, got " ++ toString key.length⟩

/-- Reads 64 bytes whose halves are positive and below the order. -/
def readSignature (signature : Bytes) : Except CurveError Signature :=
  let sig := Signature.ofBytes signature
  if signature.length = 64 && isScalar G sig.r && isScalar G sig.s then .ok sig
  else .error ⟨.invalidSignature, "Invalid signature: " ++ blankError⟩

def verify (key digest signature : Bytes) : Except CurveError Bool := do
  let signature ← signature64 signature
  let point ← readPublicKey G key
  let digest ← digest32 digest
  let sig ← readSignature G signature
  pure (verifies G point (Bytes.toNat digest) sig)

def recover (digest signature : Bytes) (id : UInt8) : Except CurveError Bytes := do
  let digest ← digest32 digest
  let sig ← readSignature G signature
  match RecoveryId.ofByte? id with
  | none => throw ⟨.invalidSignature, "Invalid recovery ID: " ++ toString id⟩
  | some id =>
    match recover? G (Bytes.toNat digest) sig id with
    | some point => compressed G point
    | none => throw ⟨.verificationFailed, "Recovery failed: signature error"⟩

def scheme : EcdsaScheme where
  order := G.order
  publicKey := publicKey G
  signature := signature G attempts nonce
  verify := verify G
  recover := recover G

end CustodySigner.Scheme.Secp256r1
