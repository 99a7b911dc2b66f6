import CustodySigner.Error
import CustodySigner.Text.Lowercase

set_option autoImplicit false
set_option relaxedAutoImplicit false

/-!
The curves of the engine, their identifiers on the wire, and the sizes of what they produce.
-/

namespace CustodySigner

/-- A curve together with its signature scheme. -/
inductive Curve where
  | secp256k1
  | secp256r1
  | ed25519
  /-- BLS12-381 with public keys in the first group and augmented messages. -/
  | bls12381
deriving DecidableEq, Repr

namespace Curve

def all : List Curve := [secp256k1, secp256r1, ed25519, bls12381]

def code : Curve → UInt32
  | secp256k1 => 0xecc00000
  | secp256r1 => 0xecc00001
  | ed25519 => 0xecc00004
  | bls12381 => 0xecc00009

def ofCode? (code : UInt32) : Option Curve :=
  all.find? (·.code == code)

def name : Curve → String
  | secp256k1 => "secp256k1"
  | secp256r1 => "secp256r1"
  | ed25519 => "ed25519"
  | bls12381 => "bls12381g2aug"

def title : Curve → String
  | secp256k1 => "Secp256k1"
  | secp256r1 => "Secp256r1"
  | ed25519 => "Ed25519"
  | bls12381 => "Bls12381G2Aug"

/-- The names that are understood, in lowercase. -/
def names (curve : Curve) : List String :=
  curve.name :: match curve with
    | secp256k1 | ed25519 => []
    | secp256r1 => ["p256", "nist256p1"]
    | bls12381 => ["bls12381", "bls"]

def ofName (name : String) : Except CurveError Curve :=
  let name := String.ofList (Text.lowercase name.toList)
  match all.find? fun curve => curve.names.contains name with
  | some curve => .ok curve
  | none => .error ⟨.unsupportedCurve, name⟩

def publicKeySize : Curve → Nat
  | secp256k1 | secp256r1 => 33
  | ed25519 => 32
  | bls12381 => 48

def signatureSize : Curve → Nat
  | secp256k1 | secp256r1 | ed25519 => 64
  | bls12381 => 96

/-- A byte can be appended to signatures from which the signer is recovered. -/
def supportsRecovery : Curve → Bool
  | secp256k1 | secp256r1 => true
  | ed25519 | bls12381 => false

/-- The length of an obligation's signature. -/
def encodedSize (curve : Curve) (recovery : Bool) : Nat :=
  if recovery && curve.supportsRecovery then curve.signatureSize + 1 else curve.signatureSize

end Curve

end CustodySigner
