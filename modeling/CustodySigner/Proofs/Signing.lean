import CustodySigner.Proofs.Except
import CustodySigner.Signing

set_option autoImplicit false
set_option relaxedAutoImplicit false

/-!
The policy on one digest: what its inputs are read from, and that it gives the signature of the
curve's scheme at the size that the curve states.
-/

namespace CustodySigner

theorem Curve.ofCode?_eq_some_iff {code : UInt32} {curve : Curve} :
    Curve.ofCode? code = some curve ↔ curve.code = code := by
  constructor
  · intro found
    have same := List.find?_some found
    exact eq_of_beq same
  · rintro rfl
    cases curve <;> decide

theorem Curve.ofCode?_eq_none_iff {code : UInt32} :
    Curve.ofCode? code = none ↔ ∀ curve : Curve, curve.code ≠ code := by
  rw [Option.eq_none_iff_forall_not_mem]
  simp only [Option.mem_def, ofCode?_eq_some_iff, ne_eq]

theorem Curve.ofCode_eq_ok_iff {code : UInt32} {curve : Curve} :
    Curve.ofCode code = .ok curve ↔ Curve.ofCode? code = some curve := by
  unfold Curve.ofCode
  cases Curve.ofCode? code <;> simp

theorem Curve.code_of_ofCode_eq_error {code : UInt32} {e : SignerError}
    (h : Curve.ofCode code = .error e) :
    e.code = .unsupportedCurve ∧ ∀ curve : Curve, curve.code ≠ code := by
  unfold Curve.ofCode at h
  cases known : Curve.ofCode? code with
  | some curve => simp [known] at h
  | none =>
    simp only [known] at h
    obtain rfl := Except.error.inj h
    exact ⟨rfl, ofCode?_eq_none_iff.1 known⟩

theorem decodeDigest_eq_ok_iff {message : String} {digest : Bytes} :
    decodeDigest message = .ok digest ↔ message ≠ "" ∧ Hex.decode message = .ok digest := by
  unfold decodeDigest
  by_cases empty : message = ""
  · simp [empty]
  · cases Hex.decode message <;> simp [empty]

/-- The policy signs as the curve does and lets no signature of another size pass. -/
theorem Suite.sign_eq_ok_iff {S : Suite} {curve : Curve} {key digest signature : Bytes}
    {recovery : Bool} :
    S.sign curve key digest recovery = .ok signature ↔
      S.signObligation curve key digest recovery = .ok signature ∧
        signature.length = curve.encodedSize recovery := by
  unfold Suite.sign
  rw [bind_eq_ok_iff]
  constructor
  · rintro ⟨found, made, h⟩
    by_cases size : found.length = curve.encodedSize recovery
    · simp only [size, ne_eq, not_true_eq_false, ↓reduceIte] at h
      obtain rfl : found = signature := Except.ok.inj h
      exact ⟨made, size⟩
    · simp only [ne_eq, size, not_false_eq_true, ↓reduceIte] at h
      cases h
  · rintro ⟨made, size⟩
    refine ⟨signature, made, ?_⟩
    simp only [size, ne_eq, not_true_eq_false, ↓reduceIte]
    rfl

theorem Suite.signByCode_eq_mapError {S : Suite} {code : UInt32} {curve : Curve}
    (known : Curve.ofCode? code = some curve) {key digest : Bytes} {recovery : Bool} :
    S.signByCode code key digest recovery =
      (S.sign curve key digest recovery).mapError SignerError.ofSigning := by
  unfold Suite.signByCode
  rw [Curve.ofCode_eq_ok_iff.2 known]
  rfl

theorem Suite.signByCode_eq_ok_iff {S : Suite} {code : UInt32} {curve : Curve}
    (known : Curve.ofCode? code = some curve) {key digest signature : Bytes} {recovery : Bool} :
    S.signByCode code key digest recovery = .ok signature ↔
      S.sign curve key digest recovery = .ok signature := by
  rw [Suite.signByCode_eq_mapError known]
  exact mapError_eq_ok_iff

namespace Curve

theorem encodedSize_pos (curve : Curve) (recovery : Bool) : 0 < curve.encodedSize recovery := by
  cases curve <;> cases recovery <;> decide

end Curve

end CustodySigner
