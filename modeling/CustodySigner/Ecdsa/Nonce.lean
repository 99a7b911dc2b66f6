import CustodySigner.Hash.Hmac

set_option autoImplicit false
set_option relaxedAutoImplicit false

/-!
Deterministic nonces. A generator is seeded with the secret key and the digest, both as given, and
each round of it yields one candidate nonce.
-/

namespace CustodySigner.Ecdsa

structure NonceGenerator where
  key : Bytes
  value : Bytes

namespace NonceGenerator

/-- Mixes a separator and extra data into the key, then renews the value. -/
def update (g : NonceGenerator) (data : Bytes) : NonceGenerator :=
  let key := hmacSha256 g.key (g.value ++ data)
  ⟨key, hmacSha256 key g.value⟩

def seed (secret digest : Bytes) : NonceGenerator :=
  let start : NonceGenerator := ⟨List.replicate 32 0, List.replicate 32 1⟩
  (start.update (0 :: secret ++ digest)).update (1 :: secret ++ digest)

/-- Advances the value, which is the next output. -/
def next (g : NonceGenerator) : NonceGenerator :=
  { g with value := hmacSha256 g.key g.value }

/-- The generator after the output of the given round; between outputs the key is renewed. -/
def atRound (g : NonceGenerator) : Nat → NonceGenerator
  | 0 => g.next
  | n + 1 => ((g.atRound n).update [0]).next

end NonceGenerator

/-- The candidate nonce of each round for a secret key and a digest. -/
def nonce (secret digest : Bytes) (round : Nat) : Nat :=
  Bytes.toNat ((NonceGenerator.seed secret digest).atRound round).value

end CustodySigner.Ecdsa
