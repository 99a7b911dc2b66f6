import CustodySigner.Scheme.Input
import CustodySigner.Suite

set_option autoImplicit false
set_option relaxedAutoImplicit false

/-!
Ed25519 over digests of any length but zero. Its signatures carry no recovery byte, and to ask for
one is an error.
-/

namespace CustodySigner.Scheme.Ed25519

variable (E : EdwardsScheme)

def publicKey (key : Bytes) : Except CurveError Bytes := do
  pure (E.publicKey (← key32 key))

def sign (key digest : Bytes) : Except CurveError Bytes := do
  if digest = [] then throw ⟨.invalidDigest, "Digest must not be empty"⟩
  pure (E.sign (← key32 key) digest)

def verify (key digest signature : Bytes) : Except CurveError Bool := do
  if key.length ≠ 32 then
    throw ⟨.invalidPublicKey, "Public key must be 32 bytes, got " ++ toString key.length⟩
  let signature ← signature64 signature
  match E.verify? key digest signature with
  | some valid => pure valid
  | none =>
    throw ⟨.invalidPublicKey, "signature error: Cannot decompress Edwards point"⟩

def signObligation (key digest : Bytes) (recovery : Bool) : Except CurveError Bytes :=
  if recovery then .error ⟨.signingFailed, "ed25519 signatures carry no recovery byte"⟩
  else sign E key digest

end CustodySigner.Scheme.Ed25519
