import CustodySigner.Scheme.Input
import CustodySigner.Suite

set_option autoImplicit false
set_option relaxedAutoImplicit false

/-!
BLS signatures in the augmented scheme, by the key that is given. Obligations are signed by a
synthetic key instead.
-/

namespace CustodySigner.Scheme.Bls12381

open CustodySigner.Bls12381 (EncodingError Refusal)

variable (P : PairingScheme)

/-- The number of a private key, positive and below the order. -/
def secret (key : Bytes) : Except CurveError Nat := do
  let n := Bytes.toNat (← key32 key)
  if 0 < n && n < P.order then pure n
  else throw ⟨.invalidPrivateKey, "Invalid BLS scalar: " ++ EncodingError.badEncoding.message⟩

def pointBytes (secret : Nat) : Bytes :=
  P.encode (P.multiply secret P.base)

def publicKey (key : Bytes) : Except CurveError Bytes := do
  pure (pointBytes P (← secret P key))

def sign (key digest : Bytes) : Except CurveError Bytes := do
  let n ← secret P key
  pure (P.sign n (pointBytes P n ++ digest))

def verify (key digest signature : Bytes) : Except CurveError Bool :=
  match P.verify key digest signature with
  | .ok valid => .ok valid
  | .error (.key cause) => .error ⟨.invalidPublicKey, cause.message⟩
  | .error (.signature cause) => .error ⟨.invalidSignature, cause.message⟩

end CustodySigner.Scheme.Bls12381
