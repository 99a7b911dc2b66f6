import CustodySigner.Scheme.Bls12381
import CustodySigner.Hash.Sha256

set_option autoImplicit false
set_option relaxedAutoImplicit false

/-!
Synthetic keys. A coin is locked to a BLS key and, besides, to a hidden puzzle: its spender signs
with the raw key shifted by an offset that commits to the raw public key and to the puzzle's hash.
-/

namespace CustodySigner.SyntheticKey

/-- The hash of the puzzle that cannot be solved. -/
def defaultHiddenPuzzle : Bytes :=
  Bytes.ofNat 32 0x711d6c4e32c92e53179b199484cf8c897542bc57f2b22582799f9d657eec4699

def topBit : Nat := 0x8000000000000000000000000000000000000000000000000000000000000000

/-- Reads 32 bytes as an integer. With the top bit clear it is their value. With the top bit set,
the value of the other bits less one is complemented in as many bytes as it needs, the top bit of
these is cleared, and the result is negative; zero less one counts as one. -/
def signedValue (data : Bytes) : Int :=
  let n := Bytes.toNat data
  if n < topBit then n
  else
    let magnitude := if n = topBit then 1 else n - topBit - 1
    if magnitude = 0 then 0
    else
      match (Bytes.ofNat (Bytes.width magnitude) magnitude).map (~~~ ·) with
      | [] => 0
      | first :: rest => -(Bytes.toNat ((first &&& 0x7f) :: rest) : Int)

/-- The offset for a public key and a hidden puzzle, reduced. -/
def offset (order : Nat) (publicKey hiddenPuzzle : Bytes) : Nat :=
  (signedValue (Sha256.digest (publicKey ++ hiddenPuzzle)) % (order : Int)).toNat

variable (P : PairingScheme)

/-- The value of a raw key of at most 32 bytes, reduced. -/
def exponent (key : Bytes) : Except CurveError Nat := do
  if key.length = 0 || 32 < key.length then
    throw ⟨.invalidPrivateKey, "Secret exponent must be 1 to 32 bytes, got " ++ toString key.length⟩
  let n := Bytes.toNat key % P.order
  if n = 0 then throw ⟨.signingFailed, "Secret exponent is zero modulo the group order"⟩
  pure n

/-- The synthetic secret key of a raw key. -/
def secret (key hiddenPuzzle : Bytes) : Except CurveError Bytes := do
  let n ← exponent P key
  let publicKey ← Scheme.Bls12381.publicKey P (Bytes.ofNat 32 n)
  pure (Bytes.ofNat 32 ((n + offset P.order publicKey hiddenPuzzle) % P.order))

/-- The public key of the synthetic secret key for the default hidden puzzle. -/
def publicKey (key : Bytes) : Except CurveError Bytes := do
  let synthetic ← secret P key defaultHiddenPuzzle
  if Bytes.toNat synthetic = 0 then throw ⟨.signingFailed, "Synthetic secret key is zero"⟩
  Scheme.Bls12381.publicKey P synthetic

/-- Signs with the synthetic key, which carries no recovery byte whether asked for or not. -/
def sign (key digest : Bytes) : Except CurveError Bytes := do
  Scheme.Bls12381.sign P (← secret P key defaultHiddenPuzzle) digest

end CustodySigner.SyntheticKey
