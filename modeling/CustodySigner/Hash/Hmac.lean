import CustodySigner.Hash.Sha256
import CustodySigner.Hash.Sha512

set_option autoImplicit false
set_option relaxedAutoImplicit false

/-!
Keyed hashing and what is built from it: HMAC over both hash functions, key stretching by repeated
HMAC, and extract-and-expand key derivation.
-/

namespace CustodySigner

/-- HMAC over a hash function with the given block size. Keys longer than a block are hashed. -/
def hmac (hash : Bytes → Bytes) (block : Nat) (key message : Bytes) : Bytes :=
  let short := if block < key.length then hash key else key
  let key := short ++ List.replicate (block - short.length) 0
  hash (key.map (· ^^^ 0x5c) ++ hash (key.map (· ^^^ 0x36) ++ message))

def hmacSha256 (key message : Bytes) : Bytes :=
  hmac Sha256.digest 64 key message

def hmacSha512 (key message : Bytes) : Bytes :=
  hmac Sha512.digest 128 key message

@[simp] theorem length_hmacSha256 (key message : Bytes) :
    (hmacSha256 key message).length = 32 := by
  simp [hmacSha256, hmac]

@[simp] theorem length_hmacSha512 (key message : Bytes) :
    (hmacSha512 key message).length = 64 := by
  simp [hmacSha512, hmac]

/-- The first 64 bytes of PBKDF2 over HMAC-SHA512: the exclusive or of a chain of `rounds` codes,
of which the first is that of the salt followed by the block number one. -/
def stretch (password salt : Bytes) (rounds : Nat) : Bytes :=
  let first := hmacSha512 password (salt ++ [0, 0, 0, 1])
  go (rounds - 1) first first
where
  /-- Follows the chain from `last`, adding each code to `total`. -/
  go : Nat → Bytes → Bytes → Bytes
    | 0, _, total => total
    | n + 1, last, total =>
      let next := hmacSha512 password last
      go n next (Bytes.xor total next)

theorem length_stretch_go (password : Bytes) (n : Nat) (last total : Bytes)
    (h : total.length = 64) : (stretch.go password n last total).length = 64 := by
  induction n generalizing last total with
  | zero => exact h
  | succ n ih => exact ih _ _ (by simp [Bytes.xor, h])

@[simp] theorem length_stretch (password salt : Bytes) (rounds : Nat) :
    (stretch password salt rounds).length = 64 :=
  length_stretch_go _ _ _ _ (by simp)

/-- The pseudorandom key of HKDF-SHA256. -/
def hkdfExtract (salt material : Bytes) : Bytes :=
  hmacSha256 salt material

/-- `size` bytes of HKDF-SHA256 output under a pseudorandom key, at most 255 codes of 32 bytes. -/
def hkdfExpand (key info : Bytes) (size : Nat) : Bytes :=
  (go ((size + 31) / 32) 1 []).flatten.take size
where
  /-- The next `count` codes, the first with counter `i`, chained from `last`. -/
  go : Nat → Nat → Bytes → List Bytes
    | 0, _, _ => []
    | count + 1, i, last =>
      let next := hmacSha256 key (last ++ info ++ [UInt8.ofNat i])
      next :: go count (i + 1) next

end CustodySigner
