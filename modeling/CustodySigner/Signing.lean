import CustodySigner.Curve
import CustodySigner.Hex
import CustodySigner.Scheme.Ed25519
import CustodySigner.Scheme.Secp256k1
import CustodySigner.Scheme.Secp256r1
import CustodySigner.SyntheticKey

set_option autoImplicit false
set_option relaxedAutoImplicit false

/-!
The signature policy: how an obligation on each curve is signed and verified. Obligations on
BLS12-381 belong to the synthetic key; the recovery byte is appended where a curve has one, refused
on Ed25519, and left out on BLS12-381.
-/

namespace CustodySigner

namespace Suite

variable (S : Suite)

def secp256k1Scheme : Scheme.EcdsaScheme :=
  Scheme.Secp256k1.scheme S.secp256k1 S.attempts S.nonce

def secp256r1Scheme : Scheme.EcdsaScheme :=
  Scheme.Secp256r1.scheme S.secp256r1 S.attempts S.nonce

/-- The ECDSA scheme of a curve that has one. -/
def ecdsa? : Curve → Option Scheme.EcdsaScheme
  | .secp256k1 => some S.secp256k1Scheme
  | .secp256r1 => some S.secp256r1Scheme
  | .ed25519 | .bls12381 => none

/-- The public key of a private key itself. -/
def rawPublicKey : Curve → (key : Bytes) → Except CurveError Bytes
  | .secp256k1 => S.secp256k1Scheme.publicKey
  | .secp256r1 => S.secp256r1Scheme.publicKey
  | .ed25519 => Scheme.Ed25519.publicKey S.ed25519
  | .bls12381 => Scheme.Bls12381.publicKey S.bls12381

/-- The public key that an obligation's signature verifies under. -/
def publicKey : Curve → (key : Bytes) → Except CurveError Bytes
  | .bls12381 => SyntheticKey.publicKey S.bls12381
  | curve => S.rawPublicKey curve

/-- Signs with a private key itself. -/
def rawSign : Curve → (key digest : Bytes) → Except CurveError Bytes
  | .secp256k1 => S.secp256k1Scheme.sign
  | .secp256r1 => S.secp256r1Scheme.sign
  | .ed25519 => Scheme.Ed25519.sign S.ed25519
  | .bls12381 => Scheme.Bls12381.sign S.bls12381

/-- Verifies a signature without its recovery byte. -/
def verify : Curve → (key digest signature : Bytes) → Except CurveError Bool
  | .secp256k1 => S.secp256k1Scheme.verify
  | .secp256r1 => S.secp256r1Scheme.verify
  | .ed25519 => Scheme.Ed25519.verify S.ed25519
  | .bls12381 => Scheme.Bls12381.verify S.bls12381

/-- Signs the way the curve's obligations are signed. -/
def signObligation (curve : Curve) (key digest : Bytes) (recovery : Bool) :
    Except CurveError Bytes :=
  match curve with
  | .secp256k1 => S.secp256k1Scheme.signObligation key digest recovery
  | .secp256r1 => S.secp256r1Scheme.signObligation key digest recovery
  | .ed25519 => Scheme.Ed25519.signObligation S.ed25519 key digest recovery
  | .bls12381 => SyntheticKey.sign S.bls12381 key digest

/-- Signs an obligation and holds the signature to its size. -/
def sign (curve : Curve) (key digest : Bytes) (recovery : Bool) : Except CurveError Bytes := do
  let signature ← S.signObligation curve key digest recovery
  let expected := curve.encodedSize recovery
  if signature.length ≠ expected then
    throw ⟨.signingFailed, curve.name ++ " produced " ++ toString signature.length ++
      " signature bytes, expected " ++ toString expected⟩
  pure signature

end Suite

def Curve.ofCode (code : UInt32) : Except SignerError Curve :=
  match Curve.ofCode? code with
  | some curve => .ok curve
  | none =>
    let digits := Nat.toDigits 16 code.toNat
    let zeros := List.replicate (8 - digits.length) '0'
    .error (.plain .unsupportedCurve ("Unknown eccType 0x" ++ String.ofList (zeros ++ digits)))

def decodeDigest (message : String) : Except SignerError Bytes :=
  if message = "" then .error (.plain .digestDecodeError "Message digest is empty")
  else
    match Hex.decode message with
    | .ok digest => .ok digest
    | .error e =>
      .error (.plain .digestDecodeError ("Message digest is not valid hex: " ++ e.message))

/-- A refused private key counts as a failure to sign. -/
def SignerError.ofSigning (e : CurveError) : SignerError :=
  match e.kind with
  | .invalidPrivateKey => .plain .signingFailure e.message
  | _ => .ofCurveError e

/-- Signs an obligation on the curve with a number on the wire. -/
def Suite.signByCode (S : Suite) (code : UInt32) (key digest : Bytes) (recovery : Bool) :
    Except SignerError Bytes := do
  let curve ← Curve.ofCode code
  (S.sign curve key digest recovery).mapError SignerError.ofSigning

end CustodySigner
