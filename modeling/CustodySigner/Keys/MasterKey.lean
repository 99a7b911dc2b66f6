import CustodySigner.Derivation.Path
import CustodySigner.Hex
import CustodySigner.Keys.KeyStore
import CustodySigner.Keys.Mnemonic

set_option autoImplicit false
set_option relaxedAutoImplicit false

/-!
The master key: a seed of sixteen to sixty-four bytes, given as bytes, in hexadecimal or by a
mnemonic. It is a key store that derives its keys.
-/

namespace CustodySigner

/-- A seed of a length that key derivation accepts. -/
structure MasterKey where
  seed : Bytes
  least : 16 ≤ seed.length
  most : seed.length ≤ 64
deriving DecidableEq

namespace MasterKey

def ofSeed (seed : Bytes) : Except KeyStoreError MasterKey :=
  if h : 16 ≤ seed.length ∧ seed.length ≤ 64 then .ok ⟨seed, h.1, h.2⟩
  else .error ⟨.invalidSeed, "seed must be 16 to 64 bytes, got " ++ toString seed.length⟩

/-- Reads a seed in hexadecimal, with blanks around it or not. -/
def ofSeedHex (text : String) : Except KeyStoreError MasterKey :=
  match Hex.decode (String.ofList (Text.trim text.toList)) with
  | .ok seed => ofSeed seed
  | .error e => .error ⟨.invalidSeed, "seed is not hex: " ++ e.message⟩

def ofMnemonic (phrase passphrase : String) : Except KeyStoreError MasterKey :=
  let words := Mnemonic.wordsOf phrase
  match Mnemonic.check words with
  | .ok () => ofSeed (Mnemonic.seed words passphrase)
  | .error e => .error ⟨.invalidSeed, "invalid mnemonic: " ++ e.message⟩

/-- What may be shown of the key. -/
def debugText (key : MasterKey) : String :=
  "MasterKey \x7b seed: [REDACTED " ++ toString key.seed.length ++ " bytes] \x7d"

end MasterKey

structure DerivedKey where
  curve : Curve
  path : KeyPath
  bytes : Bytes
deriving DecidableEq, Repr

/-- What may be shown of the key. -/
def DerivedKey.debugText (key : DerivedKey) : String :=
  "DerivedKey \x7b curve: " ++ key.curve.title ++ ", path: \"" ++ key.path.display ++ "\", .. \x7d"

namespace MasterKey

variable (S : Suite)

def derive (key : MasterKey) (path : KeyPath) (curve : Curve) : Except KeyStoreError Bytes :=
  (S.derive curve key.seed path).mapError KeyStoreError.ofCurveError

def find (key : MasterKey) (path : String) (curve : Curve) : Except KeyStoreError DerivedKey :=
  match KeyPath.parse path with
  | .error e => .error ⟨.invalidPath, "'" ++ path ++ "': " ++ e.message⟩
  | .ok path => (key.derive S path curve).map fun bytes => ⟨curve, path, bytes⟩

def store (key : MasterKey) : KeyStore where
  find path curve := (key.find S path curve).map fun child => ⟨.ok child.bytes⟩

end MasterKey

end CustodySigner
