import CustodySigner.Proofs.Admission
import CustodySigner.Proofs.Group.Pairing

set_option autoImplicit false
set_option relaxedAutoImplicit false

/-!
Obligations of a BLS key are signed by the key that is published for it. The published point is that
of the raw key plus the multiple of the base point by the offset, so that it is known to those who
know the raw public key alone.
-/

namespace CustodySigner.SyntheticKey

open Scheme.Bls12381 (pointBytes)

section

variable {P : PairingScheme} {key digest synthetic : Bytes}

theorem multiple_scalar (lawful : P.Lawful) (n : Nat) : P.multiple (scalar P n) =
    P.add (P.multiple n) (P.multiple (offset P.order (pointBytes P n) defaultHiddenPuzzle)) := by
  rw [lawful.add_multiple]
  exact lawful.multiple_mod _

/-- Signing by a raw key is signing by its synthetic key. -/
theorem sign_of_secret (h : secret P key defaultHiddenPuzzle = .ok synthetic) :
    sign P key digest = Scheme.Bls12381.sign P synthetic digest := by
  unfold sign
  rw [h]
  rfl

theorem publicKey_of_secret (h : secret P key defaultHiddenPuzzle = .ok synthetic)
    (nonzero : Bytes.toNat synthetic ≠ 0) :
    publicKey P key = Scheme.Bls12381.publicKey P synthetic := by
  unfold publicKey
  rw [h]
  exact if_neg nonzero

theorem IsUsable.exists_secret (usable : IsUsable P key) :
    ∃ synthetic, secret P key defaultHiddenPuzzle = .ok synthetic ∧
      Bytes.toNat synthetic = scalar P (Bytes.toNat key % P.order) ∧
      Bytes.toNat synthetic ≠ 0 := by
  obtain ⟨sized, indivisible, nonzero⟩ := usable
  have reduced := exponent_eq_ok_iff.2 ⟨sized, indivisible, rfl⟩
  exact ⟨_, secret_of_exponent reduced, toNat_ofNat_shifted, by rwa [toNat_ofNat_shifted]⟩

end

/-- A BLS key signs, with the recovery flag or without, exactly when it is published, and this is
when its synthetic key is a scalar. The signature and the published key are then those of the
synthetic key, whose point is that of the raw key moved by the offset of the raw public key. -/
theorem signed_by_published_key (S : Suite) (lawful : S.bls12381.Lawful) (key : Bytes) :
    let P := S.bls12381
    let k := Bytes.toNat key % P.order
    (∀ digest recovery, (∃ signature, S.sign .bls12381 key digest recovery = .ok signature) ↔
      ∃ published, S.publicKey .bls12381 key = .ok published) ∧
    ((∃ published, S.publicKey .bls12381 key = .ok published) ↔
      (1 ≤ key.length ∧ key.length ≤ 32) ∧ ¬ P.order ∣ Bytes.toNat key ∧ scalar P k ≠ 0) ∧
    ∀ published, S.publicKey .bls12381 key = .ok published →
      ∃ synthetic raw,
        secret P key defaultHiddenPuzzle = .ok synthetic ∧
        Bytes.toNat synthetic = scalar P k ∧
        (∀ digest, ∃ signature, S.rawSign .bls12381 synthetic digest = .ok signature ∧
          ∀ recovery, S.sign .bls12381 key digest recovery = .ok signature) ∧
        S.rawPublicKey .bls12381 synthetic = .ok published ∧
        published = P.encode (P.multiple (scalar P k)) ∧
        S.rawPublicKey .bls12381 (Bytes.ofNat 32 k) = .ok raw ∧
        P.multiple (scalar P k) =
          P.add (P.multiple k) (P.multiple (offset P.order raw defaultHiddenPuzzle)) := by
  intro P k
  have signs (digest : Bytes) (recovery : Bool) :
      (∃ signature, S.sign .bls12381 key digest recovery = .ok signature) ↔ IsUsable P key := by
    simp only [Suite.sign_eq_signObligation]
    exact exists_sign_iff
  refine ⟨fun digest recovery => (signs digest recovery).trans exists_publicKey_iff.symm,
    exists_publicKey_iff, fun published made => ?_⟩
  have usable : IsUsable P key := exists_publicKey_iff.1 ⟨published, made⟩
  obtain ⟨synthetic, shift, value, nonzero⟩ := usable.exists_secret
  have same : S.rawPublicKey .bls12381 synthetic = .ok published :=
    (publicKey_of_secret shift nonzero).symm.trans made
  refine ⟨synthetic, pointBytes P k, shift, value, fun digest => ?_, same, ?_, ?_,
    multiple_scalar lawful k⟩
  -- the scheme does not ask for the recovery flag, so that one signature serves both
  · obtain ⟨signature, signed⟩ := exists_sign_iff.2 usable
    refine ⟨signature, (sign_of_secret shift).symm.trans signed, fun recovery => ?_⟩
    rw [Suite.sign_eq_signObligation]
    exact signed
  · obtain ⟨n, known, written⟩ := bind_eq_ok_iff.1 same
    obtain ⟨-, number, -⟩ := Scheme.Bls12381.secret_eq_ok_iff.1 known
    rw [← value, number]
    exact (Except.ok.inj written).symm
  · exact (Scheme.Bls12381.publicKey_ofNat_eq_ok_iff (Nat.mod_lt _ order_pos)).2
      ⟨mt Nat.dvd_of_mod_eq_zero usable.2.1, rfl⟩

theorem signed_by_published_key_unreduced :
    let key := Bytes.ofNat 32 (Bls12381.order + 17)
    ∃ published synthetic signature,
      Suite.standard.publicKey .bls12381 key = .ok published ∧
      Suite.standard.rawPublicKey .bls12381 synthetic = .ok published ∧
      Suite.standard.rawSign .bls12381 synthetic [3] = .ok signature ∧
      Suite.standard.sign .bls12381 key [3] true = .ok signature ∧
      Suite.standard.sign .bls12381 key [3] false = .ok signature := by
  intro key
  obtain ⟨-, publishes, same⟩ :=
    signed_by_published_key Suite.standard Bls12381.lawful_standard key
  obtain ⟨published, made⟩ := publishes.2 (by decide +kernel)
  obtain ⟨synthetic, -, -, -, signs, shared, -⟩ := same published made
  obtain ⟨signature, signed, either⟩ := signs [3]
  exact ⟨published, synthetic, signature, made, shared, signed, either true, either false⟩

end CustodySigner.SyntheticKey
