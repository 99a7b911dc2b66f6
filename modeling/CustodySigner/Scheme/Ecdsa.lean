import CustodySigner.Scheme.Input
import CustodySigner.Ecdsa.Basic
import CustodySigner.Ecdsa.PublicKey

set_option autoImplicit false
set_option relaxedAutoImplicit false

/-!
What the two ECDSA schemes share. A scheme finds a signature together with its recovery id; it is
written in low form, alone or with the id. Points are written compressed.
-/

namespace CustodySigner.Scheme

open Ecdsa (Signature RecoveryId)

/-- The number of a private key; `refusal` is the reason against one that is no scalar. -/
def ecdsaSecret (G : CurveGroup) (refusal : String) (key : Bytes) : Except CurveError Nat := do
  let n := Bytes.toNat (← key32 key)
  if Ecdsa.isScalar G n then pure n else throw ⟨.invalidPrivateKey, refusal⟩

/-- The compressed encoding of a point, which the neutral point lacks. -/
def compressed (G : CurveGroup) (P : G.Point) : Except CurveError Bytes :=
  match Ecdsa.compress? G P with
  | some b => .ok b
  | none => .error ⟨.invalidPublicKey, "Unexpected compressed point length"⟩

/-- A scheme of ECDSA signatures of digests by 32-byte keys. -/
structure EcdsaScheme where
  order : Nat
  publicKey : (key : Bytes) → Except CurveError Bytes
  signature : (key digest : Bytes) → Except CurveError (Signature × RecoveryId)
  verify : (publicKey digest signature : Bytes) → Except CurveError Bool
  /-- The compressed public key of the signer. -/
  recover : (digest signature : Bytes) → (id : UInt8) → Except CurveError Bytes

namespace EcdsaScheme

variable (E : EcdsaScheme)

/-- The bytes of a signature in low form. -/
def sign (key digest : Bytes) : Except CurveError Bytes := do
  let (sig, _) ← E.signature key digest
  pure (Ecdsa.normalize E.order sig none).1.toBytes

/-- The bytes of a signature in low form, and the recovery id that belongs to that form. -/
def signRecoverable (key digest : Bytes) : Except CurveError (Bytes × UInt8) := do
  let (sig, id) ← E.signature key digest
  match Ecdsa.normalize E.order sig (some id) with
  | (sig, some id) => pure (sig.toBytes, id.toByte)
  | (_, none) => throw ⟨.signingFailed, "Missing recovery id"⟩

/-- A signature, followed by the recovery id if it is asked for. -/
def signObligation (key digest : Bytes) (recovery : Bool) : Except CurveError Bytes :=
  if recovery then (E.signRecoverable key digest).map fun (signature, id) => signature ++ [id]
  else E.sign key digest

end EcdsaScheme

end CustodySigner.Scheme
