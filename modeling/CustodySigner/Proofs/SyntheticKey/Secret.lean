import CustodySigner.Proofs.Scheme.Bls12381
import CustodySigner.SyntheticKey
import Mathlib.Data.Int.ModEq
import Mathlib.Data.Nat.ModEq

set_option autoImplicit false
set_option relaxedAutoImplicit false

/-!
Synthetic secret keys. A raw key of 1 to 32 bytes that is not zero modulo the order is reduced and
shifted by the offset, the residue of the signed value of a hash; every other raw key is refused for
its length or for being zero.
-/

namespace CustodySigner

/-- The bytes are those that the number needs, behind the zeros that are left of 32. -/
structure Bytes.IsPadded (n : Nat) (bytes : Bytes) : Prop where
  fits : width n ≤ 32
  padded : bytes = List.replicate (32 - width n) 0 ++ ofNat (width n) n

theorem Bytes.isPadded_ofNat {n : Nat} (bound : n < range32) : IsPadded n (ofNat 32 n) := by
  have fits : width n ≤ 32 := width_le_iff.2 bound
  exact ⟨fits, ofNat_eq_replicate_append fits⟩

namespace SyntheticKey

open Scheme.Bls12381 (pointBytes)

/-- The raw key has 1 to 32 bytes. -/
def IsSized (key : Bytes) : Prop :=
  1 ≤ key.length ∧ key.length ≤ 32

instance instDecidableIsSized (key : Bytes) : Decidable (IsSized key) :=
  inferInstanceAs (Decidable (1 ≤ key.length ∧ key.length ≤ 32))

/-- The error over a raw key of another length. -/
def missized (key : Bytes) : CurveError :=
  ⟨.invalidPrivateKey, "Secret exponent must be 1 to 32 bytes, got " ++ toString key.length⟩

/-- The error over a raw key that is zero modulo the order. -/
def vanishing : CurveError :=
  ⟨.signingFailed, "Secret exponent is zero modulo the group order"⟩

section Offset

variable {order o : Nat} {publicKey hiddenPuzzle : Bytes}

/-- The residue of the signed value of the hash of a public key and a hidden puzzle. -/
def IsOffset (order : Nat) (publicKey hiddenPuzzle : Bytes) (o : Nat) : Prop :=
  o < order ∧ (o : Int) ≡ signedValue (Sha256.digest (publicKey ++ hiddenPuzzle)) [ZMOD order]

theorem isOffset_iff (positive : 0 < order) :
    IsOffset order publicKey hiddenPuzzle o ↔ o = offset order publicKey hiddenPuzzle := by
  have nonzero : (order : Int) ≠ 0 := by omega
  have least := Int.emod_nonneg (signedValue (Sha256.digest (publicKey ++ hiddenPuzzle))) nonzero
  have bound := Int.emod_lt_of_pos (signedValue (Sha256.digest (publicKey ++ hiddenPuzzle)))
    (by omega : (0 : Int) < order)
  unfold IsOffset offset Int.ModEq
  constructor
  · rintro ⟨below, congruent⟩
    rw [Int.emod_eq_of_lt (by omega) (by omega)] at congruent
    omega
  · rintro rfl
    rw [Int.toNat_of_nonneg least, Int.emod_emod_of_dvd _ dvd_rfl]
    exact ⟨by omega, rfl⟩

end Offset

variable (P : PairingScheme)

/-- The secret key shifted by the offset for a hidden puzzle, as a number. -/
def shifted (hiddenPuzzle : Bytes) (n : Nat) : Nat :=
  (n + offset P.order (pointBytes P n) hiddenPuzzle) % P.order

/-- The synthetic secret key of a secret key, as a number. -/
def scalar (n : Nat) : Nat :=
  (n + offset P.order (Scheme.Bls12381.pointBytes P n) defaultHiddenPuzzle) % P.order

variable {P} {key hiddenPuzzle bytes digest : Bytes} {n : Nat}

theorem order_pos : 0 < P.order :=
  Nat.zero_lt_of_lt P.one_lt_order

theorem shifted_lt : shifted P hiddenPuzzle n < P.order :=
  Nat.mod_lt _ order_pos

theorem toNat_ofNat_shifted :
    Bytes.toNat (Bytes.ofNat 32 (shifted P hiddenPuzzle n)) = shifted P hiddenPuzzle n :=
  Bytes.toNat_ofNat_32 (lt_of_lt_of_le shifted_lt P.order_le)

section Exponent

theorem exponent_of_not_isSized (h : ¬ IsSized key) : exponent P key = .error (missized key) := by
  have outside : key.length = 0 ∨ 32 < key.length := by
    unfold IsSized at h
    omega
  simp only [exponent, Bool.or_eq_true, decide_eq_true_eq, outside, if_true]
  rfl

theorem exponent_of_isSized (h : IsSized key) : exponent P key =
    if P.order ∣ Bytes.toNat key then .error vanishing else .ok (Bytes.toNat key % P.order) := by
  have inside : ¬ (key.length = 0 ∨ 32 < key.length) := by
    unfold IsSized at h
    omega
  simp only [exponent, Bool.or_eq_true, decide_eq_true_eq, inside, if_false,
    ← Nat.dvd_iff_mod_eq_zero]
  rfl

theorem exponent_eq_ok_iff : exponent P key = .ok n ↔
    IsSized key ∧ ¬ P.order ∣ Bytes.toNat key ∧ n = Bytes.toNat key % P.order := by
  by_cases sized : IsSized key
  · rw [exponent_of_isSized sized]
    by_cases zero : P.order ∣ Bytes.toNat key
    · simp [zero]
    · simp [sized, zero, eq_comm]
  · rw [exponent_of_not_isSized sized]
    simp [sized]

theorem exponent_eq_error_iff {e : CurveError} : exponent P key = .error e ↔
    ¬ IsSized key ∧ e = missized key ∨
      IsSized key ∧ P.order ∣ Bytes.toNat key ∧ e = vanishing := by
  by_cases sized : IsSized key
  · rw [exponent_of_isSized sized]
    by_cases zero : P.order ∣ Bytes.toNat key
    · simp [sized, zero, eq_comm]
    · simp [sized, zero]
  · rw [exponent_of_not_isSized sized]
    simp [sized, eq_comm]

theorem scalar_of_exponent (h : exponent P key = .ok n) : n ≠ 0 ∧ n < P.order := by
  obtain ⟨-, nonzero, rfl⟩ := exponent_eq_ok_iff.1 h
  exact ⟨mt Nat.dvd_of_mod_eq_zero nonzero, Nat.mod_lt _ order_pos⟩

theorem exponent_congr {other : Bytes} (sized : IsSized key) (sized' : IsSized other)
    (congruent : Bytes.toNat other ≡ Bytes.toNat key [MOD P.order]) :
    exponent P other = exponent P key := by
  have residue : Bytes.toNat other % P.order = Bytes.toNat key % P.order := congruent
  rw [exponent_of_isSized sized, exponent_of_isSized sized']
  simp only [Nat.dvd_iff_mod_eq_zero, residue]

end Exponent

section Secret

theorem secret_of_exponent (h : exponent P key = .ok n) :
    secret P key hiddenPuzzle = .ok (Bytes.ofNat 32 (shifted P hiddenPuzzle n)) := by
  obtain ⟨nonzero, bound⟩ := scalar_of_exponent h
  have published := (Scheme.Bls12381.publicKey_ofNat_eq_ok_iff bound).2 ⟨nonzero, rfl⟩
  exact bind_eq_ok_iff.2 ⟨n, h, bind_eq_ok_iff.2 ⟨_, published, rfl⟩⟩

example : secret Suite.bls12381Standard [0x11] defaultHiddenPuzzle = .ok
    (Bytes.ofNat 32 0x73805613c97d720b5b8cdb103225ec64bd984fdea92ba8356d6d0c90e55db595) :=
  eq_ok_of_toOption (by decide +kernel)

theorem secret_eq_ok_iff : secret P key hiddenPuzzle = .ok bytes ↔
    ∃ n, exponent P key = .ok n ∧ bytes = Bytes.ofNat 32 (shifted P hiddenPuzzle n) := by
  constructor
  · intro h
    obtain ⟨n, reduced, -⟩ := bind_eq_ok_iff.1 h
    exact ⟨n, reduced, Except.ok.inj (h.symm.trans (secret_of_exponent reduced))⟩
  · rintro ⟨n, reduced, rfl⟩
    exact secret_of_exponent reduced

theorem secret_eq_error_iff {e : CurveError} : secret P key hiddenPuzzle = .error e ↔
    ¬ IsSized key ∧ e = missized key ∨
      IsSized key ∧ P.order ∣ Bytes.toNat key ∧ e = vanishing := by
  rw [← exponent_eq_error_iff (P := P)]
  constructor
  · intro h
    rcases bind_eq_error_iff.1 h with refused | ⟨n, reduced, -⟩
    · exact refused
    · exact absurd (h.symm.trans (secret_of_exponent reduced)) nofun
  · exact fun refused => bind_eq_error_iff.2 (.inl refused)

theorem exists_invalidPrivateKey_iff :
    (∃ reason, secret P key hiddenPuzzle = .error ⟨.invalidPrivateKey, reason⟩) ↔
      ¬ IsSized key := by
  simp only [secret_eq_error_iff]
  constructor
  · rintro ⟨reason, ⟨unsized, -⟩ | ⟨-, -, same⟩⟩
    · exact unsized
    · cases same
  · exact fun unsized => ⟨_, .inl ⟨unsized, rfl⟩⟩

theorem exists_signingFailed_iff :
    (∃ reason, secret P key hiddenPuzzle = .error ⟨.signingFailed, reason⟩) ↔
      IsSized key ∧ P.order ∣ Bytes.toNat key := by
  simp only [secret_eq_error_iff]
  constructor
  · rintro ⟨reason, ⟨-, same⟩ | ⟨sized, zero, -⟩⟩
    · cases same
    · exact ⟨sized, zero⟩
  · exact fun ⟨sized, zero⟩ => ⟨_, .inr ⟨sized, zero, rfl⟩⟩

theorem exists_publicKey_of_exponent (h : exponent P key = .ok n) : ∃ number,
    Bytes.IsPadded n number ∧ Scheme.Bls12381.publicKey P number = .ok (pointBytes P n) := by
  obtain ⟨nonzero, bound⟩ := scalar_of_exponent h
  exact ⟨_, Bytes.isPadded_ofNat (lt_of_lt_of_le bound P.order_le),
    (Scheme.Bls12381.publicKey_ofNat_eq_ok_iff bound).2 ⟨nonzero, rfl⟩⟩

theorem exists_secret_of_isOffset {o : Nat} (h : exponent P key = .ok n)
    (isOffset : IsOffset P.order (pointBytes P n) hiddenPuzzle o) :
    ∃ bytes, secret P key hiddenPuzzle = .ok bytes ∧ bytes.length = 32 ∧
      Bytes.toNat bytes = (n + o) % P.order ∧ Bytes.toNat bytes < P.order ∧
      Bytes.IsPadded ((n + o) % P.order) bytes := by
  obtain rfl := (isOffset_iff order_pos).1 isOffset
  exact ⟨_, secret_of_exponent h, Bytes.length_ofNat 32 _, toNat_ofNat_shifted,
    toNat_ofNat_shifted.trans_lt shifted_lt,
    Bytes.isPadded_ofNat (lt_of_lt_of_le shifted_lt P.order_le)⟩

theorem secret_congr {other : Bytes} (sized : IsSized key) (sized' : IsSized other)
    (congruent : Bytes.toNat other ≡ Bytes.toNat key [MOD P.order]) :
    secret P other hiddenPuzzle = secret P key hiddenPuzzle := by
  unfold secret
  rw [exponent_congr sized sized' congruent]

end Secret

/-- A raw key is refused for its size or for being zero modulo the order. Every other raw key is
reduced, published, which cannot fail, and shifted by the one offset that its hash determines; the
result is written in 32 bytes, and depends on the residue of the key alone. -/
theorem synthetic_secret_is_shifted_residue (P : PairingScheme) (key hiddenPuzzle : Bytes) :
    ((∃ reason, secret P key hiddenPuzzle = .error ⟨.invalidPrivateKey, reason⟩) ↔
      key.length = 0 ∨ 32 < key.length) ∧
    ((∃ reason, secret P key hiddenPuzzle = .error ⟨.signingFailed, reason⟩) ↔
      IsSized key ∧ P.order ∣ Bytes.toNat key) ∧
    (∀ e, secret P key hiddenPuzzle = .error e → e = missized key ∨ e = vanishing) ∧
    (IsSized key → ¬ P.order ∣ Bytes.toNat key →
      let k := Bytes.toNat key % P.order
      (∃ number, Bytes.IsPadded k number ∧
        Scheme.Bls12381.publicKey P number = .ok (pointBytes P k)) ∧
      (pointBytes P k).length = 48 ∧
      (∃! o, IsOffset P.order (pointBytes P k) hiddenPuzzle o) ∧
      ∀ o, IsOffset P.order (pointBytes P k) hiddenPuzzle o →
        ∃ bytes, secret P key hiddenPuzzle = .ok bytes ∧ bytes.length = 32 ∧
          Bytes.toNat bytes = (k + o) % P.order ∧ Bytes.toNat bytes < P.order ∧
          Bytes.IsPadded ((k + o) % P.order) bytes) ∧
    ∀ other, IsSized key → IsSized other → Bytes.toNat other ≡ Bytes.toNat key [MOD P.order] →
      secret P other hiddenPuzzle = secret P key hiddenPuzzle := by
  refine ⟨?_, exists_signingFailed_iff, fun e refused => ?_, fun sized nonzero => ?_,
    fun other => secret_congr⟩
  · rw [exists_invalidPrivateKey_iff, IsSized]
    omega
  · rcases secret_eq_error_iff.1 refused with ⟨-, same⟩ | ⟨-, -, same⟩
    · exact .inl same
    · exact .inr same
  · intro k
    have reduced : exponent P key = .ok k := exponent_eq_ok_iff.2 ⟨sized, nonzero, rfl⟩
    refine ⟨exists_publicKey_of_exponent reduced, P.length_encode _, ?_,
      fun o => exists_secret_of_isOffset reduced⟩
    exact ⟨_, (isOffset_iff order_pos).2 rfl, fun o isOffset => (isOffset_iff order_pos).1 isOffset⟩

theorem synthetic_secret_is_shifted_residue_seventeen :
    let P := Suite.bls12381Standard
    let unreduced := Bytes.ofNat 32 (Bls12381.order + 17)
    (∃ reason, secret P [] defaultHiddenPuzzle = .error ⟨.invalidPrivateKey, reason⟩) ∧
    (∃ reason, secret P (Bytes.ofNat 32 Bls12381.order) defaultHiddenPuzzle =
      .error ⟨.signingFailed, reason⟩) ∧
    (∃ o bytes, IsOffset P.order (pointBytes P 17) defaultHiddenPuzzle o ∧
      secret P unreduced defaultHiddenPuzzle = .ok bytes ∧
      Bytes.toNat bytes = (17 + o) % P.order) ∧
    secret P [0x11] defaultHiddenPuzzle = secret P unreduced defaultHiddenPuzzle ∧
    secret P [0x00, 0x11] defaultHiddenPuzzle = secret P unreduced defaultHiddenPuzzle := by
  intro P unreduced
  obtain ⟨missized, -⟩ := synthetic_secret_is_shifted_residue P [] defaultHiddenPuzzle
  obtain ⟨-, vanishing, -⟩ :=
    synthetic_secret_is_shifted_residue P (Bytes.ofNat 32 Bls12381.order) defaultHiddenPuzzle
  obtain ⟨-, -, -, usable, congr⟩ :=
    synthetic_secret_is_shifted_residue P unreduced defaultHiddenPuzzle
  have sized : IsSized unreduced := by decide +kernel
  have residue : Bytes.toNat unreduced % P.order = 17 := by decide +kernel
  have nonzero : ¬ P.order ∣ Bytes.toNat unreduced := by
    rw [Nat.dvd_iff_mod_eq_zero, residue]
    decide
  obtain ⟨-, -, ⟨o, isOffset, -⟩, written⟩ := usable sized nonzero
  obtain ⟨bytes, made, -, value, -⟩ := written o isOffset
  rw [residue] at isOffset value
  exact ⟨missized.2 (by decide), vanishing.2 (by decide +kernel),
    ⟨o, bytes, isOffset, made, value⟩, congr [0x11] sized (by decide) (by decide +kernel),
    congr [0x00, 0x11] sized (by decide) (by decide +kernel)⟩

end SyntheticKey

end CustodySigner
