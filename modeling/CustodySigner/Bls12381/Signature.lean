import CustodySigner.Bls12381.HashToCurve
import CustodySigner.Bls12381.Pairing

set_option autoImplicit false
set_option relaxedAutoImplicit false

/-!
Signatures with public keys in the first group. A message is signed together with the key's own
encoding in front of it, so a signature cannot be taken for one by another key.
-/

namespace CustodySigner.Bls12381

def augmentedTag : Bytes :=
  Bytes.ofText "BLS_SIG_BLS12381G2_XMD:SHA-256_SSWU_RO_AUG_"

def encodeKey (P : G1) : Bytes :=
  compress firstFormat P

/-- Signs a message that already carries the public key in front. -/
def sign (secret : Nat) (message : Bytes) : Bytes :=
  compress secondFormat (twist.multiply secret (hashToCurve augmentedTag message))

@[simp] theorem length_encodeKey (P : G1) : (encodeKey P).length = 48 :=
  length_compress firstFormat (by simp [firstFormat]) (by decide) P

@[simp] theorem length_sign (secret : Nat) (message : Bytes) : (sign secret message).length = 96 :=
  length_compress secondFormat (by simp [secondFormat]) (by decide) _

/-- Both points are in their groups, the key is not infinity, and the pairings agree. -/
def verifies (key : G1) (message : Bytes) (signature : G2) : Bool :=
  inSecondGroup signature && key ≠ .infinity && inFirstGroup key &&
    pairingsCancel [(key, hashToCurve augmentedTag message),
      (Weierstrass.negate generator, signature)]

/-- Which part of a request to verify is no point. -/
inductive Refusal where
  | key (cause : EncodingError)
  | signature (cause : EncodingError)
deriving DecidableEq, Repr

def verify (key message signature : Bytes) : Except Refusal Bool :=
  match readPublicKey key with
  | .error e => .error (.key e)
  | .ok P =>
    match readSignature signature with
    | .error e => .error (.signature e)
    | .ok Q => .ok (verifies P (encodeKey P ++ message) Q)

end CustodySigner.Bls12381
