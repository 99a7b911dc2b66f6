import CustodySigner.Derivation.ExtendedKey
import CustodySigner.Proofs.Bytes
import CustodySigner.Proofs.Ecdsa.Basic

set_option autoImplicit false
set_option relaxedAutoImplicit false

/-!
Extended keys that can sign. Sums modulo the order stay in range, so that a key can sign as soon as it
is not zero.
-/

namespace CustodySigner

/-- The secret key has 32 bytes that spell a scalar of the group. -/
def ExtendedKey.Usable (G : CurveGroup) (k : ExtendedKey) : Prop :=
  k.key.length = 32 ∧ Ecdsa.isScalar G k.scalar = true

namespace ExtendedKey

variable {G : CurveGroup}

theorem usable_of_mod_ne_zero {n : Nat} (h : n % G.order ≠ 0) (chainCode : Bytes) :
    Usable G ⟨Bytes.ofNat 32 (n % G.order), chainCode⟩ := by
  have below : n % G.order < G.order := Nat.mod_lt n (Nat.zero_lt_of_lt G.one_lt_order)
  have value : Bytes.toNat (Bytes.ofNat 32 (n % G.order)) = n % G.order :=
    Bytes.toNat_ofNat_32 (lt_of_lt_of_le below G.order_le)
  refine ⟨Bytes.length_ofNat 32 _, ?_⟩
  unfold scalar
  rw [value]
  exact Ecdsa.isScalar_iff.2 ⟨Nat.pos_of_ne_zero h, below⟩

theorem length_key_ofHash {hash : Bytes} (length : hash.length = 64) :
    (ofHash hash).key.length = 32 := by
  simp [ofHash, length]

end ExtendedKey

end CustodySigner
