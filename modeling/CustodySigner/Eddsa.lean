import CustodySigner.Hash.Sha512
import CustodySigner.Group.Edwards

set_option autoImplicit false
set_option relaxedAutoImplicit false

/-!
Ed25519 signatures. Verification compares encodings of the nonce point, hashes the public key as it
is given, and does not clear the cofactor.
-/

namespace CustodySigner.Eddsa

/-- The value of the highest bit of 32 bytes, which holds a parity. -/
def parityBit : Nat := 0x8000000000000000000000000000000000000000000000000000000000000000

/-- The second coordinate in 255 bits, low byte first, and the parity of the first coordinate. -/
def encode (P : Edwards.Point) : Bytes :=
  let w := P.z⁻¹
  Bytes.ofNatLE 32 ((P.y * w).val + if isOdd (P.x * w) then parityBit else 0)

/-- The point with the given encoding; the second coordinate need not be reduced. -/
def decode? (b : Bytes) : Option Edwards.Point :=
  let n := Bytes.toNatLE b
  Edwards.lift? (residue Edwards.modulus (n % parityBit)) (parityBit ≤ n)

/-- What the 32 bytes of a private key are hashed to: a scalar, and the seed of the nonces. -/
structure Secret where
  scalar : Nat
  nonceSeed : Bytes

def Secret.ofBytes (key : Bytes) : Secret :=
  let h := Sha512.digest key
  let high := parityBit / 2
  let n := Bytes.toNatLE (h.take 32) % high
  ⟨high + (n - n % 8), h.drop 32⟩

def publicKey (key : Bytes) : Bytes :=
  encode (Edwards.multiply (Secret.ofBytes key).scalar Edwards.base)

private def challenge (nonce key message : Bytes) : Nat :=
  Bytes.toNatLE (Sha512.digest (nonce ++ key ++ message)) % Edwards.order

def sign (key message : Bytes) : Bytes :=
  let secret := Secret.ofBytes key
  let r := Bytes.toNatLE (Sha512.digest (secret.nonceSeed ++ message)) % Edwards.order
  let nonce := encode (Edwards.multiply r Edwards.base)
  let k := challenge nonce (publicKey key) message
  nonce ++ Bytes.ofNatLE 32 ((r + k * secret.scalar) % Edwards.order)

/-- Verifies a signature of 64 bytes under a key of 32 bytes that decodes to `point`. -/
def verifies (key : Bytes) (point : Edwards.Point) (message signature : Bytes) : Bool :=
  let nonce := signature.take 32
  let s := Bytes.toNatLE (signature.drop 32)
  let k := challenge nonce key message
  s < Edwards.order &&
    encode (Edwards.add (Edwards.multiply s Edwards.base)
      (Edwards.multiply k (Edwards.negate point))) == nonce

@[simp] theorem length_encode (P : Edwards.Point) : (encode P).length = 32 := by
  simp [encode]

@[simp] theorem length_publicKey (key : Bytes) : (publicKey key).length = 32 := by
  simp [publicKey]

@[simp] theorem length_sign (key message : Bytes) : (sign key message).length = 64 := by
  simp [sign]

end CustodySigner.Eddsa
