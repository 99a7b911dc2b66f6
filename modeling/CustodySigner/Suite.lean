import CustodySigner.Ecdsa.Basic
import CustodySigner.Ecdsa.Nonce
import CustodySigner.Eddsa
import CustodySigner.Bls12381.Signature
import CustodySigner.Bls12381.KeyTree

set_option autoImplicit false
set_option relaxedAutoImplicit false

/-!
The cryptographic primitives under the engine. Everything above them is a function of a `Suite`;
the standard one is made of the primitives of this library.
-/

namespace CustodySigner

/-- Signatures by 32-byte keys over messages of any length. -/
structure EdwardsScheme where
  publicKey : (key : Bytes) → Bytes
  sign : (key message : Bytes) → Bytes
  /-- Whether the signature verifies, unless the public key is no point. -/
  verify? : (publicKey message signature : Bytes) → Option Bool
  length_publicKey (key : Bytes) : (publicKey key).length = 32
  length_sign (key message : Bytes) : (sign key message).length = 64

/-- Signatures by secret numbers, with the tree of such numbers that a seed spans. -/
structure PairingScheme where
  Point : Type
  /-- The order of the group of public keys, which 32 bytes can spell. -/
  order : Nat
  one_lt_order : 1 < order
  order_le : order ≤ Bytes.range32
  base : Point
  add : Point → Point → Point
  multiply : Nat → Point → Point
  encode : Point → Bytes
  /-- Signs a message with the public key already in front. -/
  sign : (secret : Nat) → (message : Bytes) → Bytes
  /-- Verifies a signature of a message; the public key is put in front here. -/
  verify : (publicKey message signature : Bytes) → Except Bls12381.Refusal Bool
  masterKey? : (seed : Bytes) → Option Nat
  childKey : (secret : Nat) → (index : UInt32) → Nat
  length_encode (P : Point) : (encode P).length = 48
  length_sign (secret : Nat) (message : Bytes) : (sign secret message).length = 96

structure Suite where
  /-- The keyed hash of key derivation, HMAC-SHA512. -/
  mac : (key message : Bytes) → Bytes
  length_mac (key message : Bytes) : (mac key message).length = 64
  secp256k1 : CurveGroup
  secp256r1 : CurveGroup
  /-- The candidate nonce of each round for a secret key and a digest. -/
  nonce : (secret digest : Bytes) → (round : Nat) → Nat
  /-- How many nonces, or hashes of a key derivation, are tried in a row. The algorithms set no limit:
  they try until one is fit, which nearly always is the first. -/
  attempts : Nat
  ed25519 : EdwardsScheme
  bls12381 : PairingScheme

namespace Suite

def ed25519Standard : EdwardsScheme where
  publicKey := Eddsa.publicKey
  sign := Eddsa.sign
  verify? key message signature :=
    (Eddsa.decode? key).map fun point => Eddsa.verifies key point message signature
  length_publicKey := Eddsa.length_publicKey
  length_sign := Eddsa.length_sign

def bls12381Standard : PairingScheme where
  Point := Bls12381.G1
  order := Bls12381.order
  one_lt_order := by decide
  order_le := by decide
  base := Bls12381.generator
  add := Bls12381.curve.add
  multiply := Bls12381.curve.multiply
  encode := Bls12381.encodeKey
  sign := Bls12381.sign
  verify := Bls12381.verify
  masterKey? := Bls12381.masterKey?
  childKey := Bls12381.childKey
  length_encode := Bls12381.length_encodeKey
  length_sign := Bls12381.length_sign

def standard : Suite where
  mac := hmacSha512
  length_mac := length_hmacSha512
  secp256k1 := CustodySigner.secp256k1.group
  secp256r1 := CustodySigner.secp256r1.group
  nonce := Ecdsa.nonce
  attempts := 1024
  ed25519 := ed25519Standard
  bls12381 := bls12381Standard

end Suite

end CustodySigner
