import CustodySigner.Hash.Hmac
import CustodySigner.Bls12381.Tower

set_option autoImplicit false
set_option relaxedAutoImplicit false

/-!
The tree of secret keys. The master key is hashed from a seed, and a child from a one-time key of
its parent for the child's index. There is no public derivation, so every child is hardened.
-/

namespace CustodySigner.Bls12381

/-- Hashes key material to a secret key, with a fresh salt until the key is not zero. The standard sets
no limit to the salts that are tried; here it is 256. -/
def secretOf (material : Bytes) : Nat :=
  go 256 (Bytes.ofText "BLS-SIG-KEYGEN-SALT-")
where
  /-- Tries `attempts` salts, beginning with the hash of `salt`. -/
  go : Nat → Bytes → Nat
    | 0, _ => 0
    | attempts + 1, salt =>
      let salt := Sha256.digest salt
      let secret := Bytes.toNat (hkdfExpand (hkdfExtract salt (material ++ [0])) [0, 48] 48) % order
      if secret = 0 then go attempts salt else secret

def minimumSeed : Nat := 32

/-- The master key of a seed, which must have at least 32 bytes. -/
def masterKey? (seed : Bytes) : Option Nat :=
  if seed.length < minimumSeed then none else some (secretOf seed)

/-- One half of a one-time key: 255 chunks of 32 bytes. -/
def lamportChunks (salt material : Bytes) : List Bytes :=
  pieces 32 255 (hkdfExpand (hkdfExtract salt material) [] (255 * 32))

/-- The hash of the public one-time key of a secret key for an index. -/
def lamportKey (secret : Nat) (index : UInt32) : Bytes :=
  let salt := Bytes.ofNat 4 index.toNat
  let material := Bytes.ofNat 32 secret
  let chunks := lamportChunks salt material ++ lamportChunks salt (material.map (~~~ ·))
  Sha256.digest (chunks.flatMap Sha256.digest)

def childKey (secret : Nat) (index : UInt32) : Nat :=
  secretOf (lamportKey secret index)

end CustodySigner.Bls12381
