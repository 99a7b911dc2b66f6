import CustodySigner.Scheme.Ecdsa

set_option autoImplicit false
set_option relaxedAutoImplicit false

/-!
ECDSA over secp256k1. Nonces are made from the digest reduced modulo the order, and a nonce that
gives no signature is passed over; a signature in high form is never valid; public keys may be
compressed, uncompressed or hybrid.
-/

namespace CustodySigner.Scheme.Secp256k1

open Ecdsa

variable (G : CurveGroup) (attempts : Nat) (nonce : Bytes → Bytes → Nat → Nat)

def secret (key : Bytes) : Except CurveError Nat :=
  ecdsaSecret G "malformed or out-of-range secret key" key

def publicKey (key : Bytes) : Except CurveError Bytes := do
  compressed G (publicPoint G (← secret G key))

def signature (key digest : Bytes) : Except CurveError (Signature × RecoveryId) := do
  let n ← secret G key
  let digest ← digest32 digest
  let reduced := Bytes.ofNat 32 (Bytes.toNat digest % G.order)
  match sign? G attempts (nonce key reduced) n (Bytes.toNat digest) with
  | some found => pure found
  | none => throw ⟨.signingFailed, "no nonce gives a signature"⟩

def readPublicKey? (key : Bytes) : Option G.Point :=
  match EncodedPoint.ofBytes? key with
  | none | some (.compact _) => none
  | some point => point.point? G

/-- Reads 64 bytes whose halves are below the order. -/
def readSignature (signature : Bytes) : Except CurveError Signature :=
  let sig := Signature.ofBytes signature
  if sig.r < G.order && sig.s < G.order then .ok sig
  else .error ⟨.invalidSignature, "malformed signature"⟩

def verify (key digest signature : Bytes) : Except CurveError Bool := do
  let signature ← signature64 signature
  match readPublicKey? G key with
  | none => throw ⟨.invalidPublicKey, "malformed public key"⟩
  | some point =>
    let sig ← readSignature G signature
    let digest ← digest32 digest
    pure (!sig.isHigh G.order && verifies G point (Bytes.toNat digest) sig)

def recover (digest signature : Bytes) (id : UInt8) : Except CurveError Bytes := do
  let signature ← signature64 signature
  match RecoveryId.ofByte? id with
  | none => throw ⟨.invalidSignature, "Invalid recovery ID: bad recovery id"⟩
  | some id =>
    let sig ← readSignature G signature
    let digest ← digest32 digest
    match recover? G (Bytes.toNat digest) sig id with
    | some point => compressed G point
    | none => throw ⟨.verificationFailed, "Recovery failed: malformed signature"⟩

def scheme : EcdsaScheme where
  order := G.order
  publicKey := publicKey G
  signature := signature G attempts nonce
  verify := verify G
  recover := recover G

end CustodySigner.Scheme.Secp256k1
