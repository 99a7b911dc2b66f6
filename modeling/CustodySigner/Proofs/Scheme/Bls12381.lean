import CustodySigner.Proofs.Bytes
import CustodySigner.Proofs.Scheme.Input
import CustodySigner.Scheme.Bls12381

set_option autoImplicit false
set_option relaxedAutoImplicit false

/-!
Private keys of the pairing scheme are the 32 bytes of positive numbers below the order, and every
such number is published and signs.
-/

namespace CustodySigner.Scheme.Bls12381

variable {P : PairingScheme} {n : Nat}

theorem secret_eq_ok_iff {key : Bytes} : secret P key = .ok n ↔
    key.length = 32 ∧ Bytes.toNat key = n ∧ 0 < n ∧ n < P.order := by
  unfold secret
  simp only [bind_eq_ok_iff, key32_eq_ok_iff]
  constructor
  · rintro ⟨_, ⟨length, rfl⟩, h⟩
    split at h
    · rename_i scalar
      obtain rfl := Except.ok.inj h
      simpa [length] using scalar
    · cases h
  · rintro ⟨length, rfl, scalar⟩
    exact ⟨key, ⟨length, rfl⟩, if_pos (by simpa using scalar)⟩

theorem secret_ofNat_eq_ok_iff (bound : n < P.order) {m : Nat} :
    secret P (Bytes.ofNat 32 n) = .ok m ↔ m = n ∧ n ≠ 0 := by
  rw [secret_eq_ok_iff, Bytes.toNat_ofNat_32 (lt_of_lt_of_le bound P.order_le)]
  constructor
  · rintro ⟨-, rfl, positive, -⟩
    exact ⟨rfl, Nat.ne_of_gt positive⟩
  · rintro ⟨rfl, nonzero⟩
    exact ⟨Bytes.length_ofNat 32 m, rfl, Nat.pos_of_ne_zero nonzero, bound⟩

theorem publicKey_ofNat_eq_ok_iff (bound : n < P.order) {bytes : Bytes} :
    publicKey P (Bytes.ofNat 32 n) = .ok bytes ↔ n ≠ 0 ∧ bytes = pointBytes P n := by
  unfold publicKey
  simp only [bind_eq_ok_iff, secret_ofNat_eq_ok_iff bound]
  constructor
  · rintro ⟨_, ⟨rfl, nonzero⟩, h⟩
    exact ⟨nonzero, (Except.ok.inj h).symm⟩
  · rintro ⟨nonzero, rfl⟩
    exact ⟨n, ⟨rfl, nonzero⟩, rfl⟩

theorem sign_ofNat_eq_ok_iff (bound : n < P.order) {digest signature : Bytes} :
    sign P (Bytes.ofNat 32 n) digest = .ok signature ↔
      n ≠ 0 ∧ signature = P.sign n (pointBytes P n ++ digest) := by
  unfold sign
  simp only [bind_eq_ok_iff, secret_ofNat_eq_ok_iff bound]
  constructor
  · rintro ⟨_, ⟨rfl, nonzero⟩, h⟩
    exact ⟨nonzero, (Except.ok.inj h).symm⟩
  · rintro ⟨nonzero, rfl⟩
    exact ⟨n, ⟨rfl, nonzero⟩, rfl⟩

end CustodySigner.Scheme.Bls12381
