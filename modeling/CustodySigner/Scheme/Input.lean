import CustodySigner.Error

set_option autoImplicit false
set_option relaxedAutoImplicit false

/-!
The sizes that schemes ask of their inputs.
-/

namespace CustodySigner.Scheme

def key32 (key : Bytes) : Except CurveError Bytes :=
  if key.length = 32 then .ok key
  else .error ⟨.invalidPrivateKey, "Private key must be 32 bytes, got " ++ toString key.length⟩

def digest32 (digest : Bytes) : Except CurveError Bytes :=
  if digest.length = 32 then .ok digest
  else .error ⟨.invalidDigest, "Digest must be 32 bytes, got " ++ toString digest.length⟩

def signature64 (signature : Bytes) : Except CurveError Bytes :=
  if signature.length = 64 then .ok signature
  else .error ⟨.invalidSignature, "Signature must be 64 bytes, got " ++ toString signature.length⟩

end CustodySigner.Scheme
