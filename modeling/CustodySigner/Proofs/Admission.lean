import CustodySigner.Proofs.Group.Standard
import CustodySigner.Proofs.Scheme.Acceptance
import CustodySigner.Proofs.Scheme.Faults
import CustodySigner.Proofs.Signing

set_option autoImplicit false
set_option relaxedAutoImplicit false

/-!
When the policy signs. Every scheme makes signatures of the size that its curve states, so that the
policy never meets one of another size; what it admits is said for each curve by the key, the digest
and the recovery flag, and all that it refuses counts as a failure to sign.
-/

namespace CustodySigner

namespace Suite

variable (S : Suite)

/-- The keys, digests and recovery flags that the policy signs with on the curve. -/
def Admits (key digest : Bytes) (recovery : Bool) : Curve → Prop
  | .secp256k1 => Scheme.IsEcdsaInput S.secp256k1 key digest
  | .secp256r1 => Scheme.IsEcdsaInput S.secp256r1 key digest
  | .ed25519 => recovery = false ∧ key.length = 32 ∧ digest ≠ []
  | .bls12381 => SyntheticKey.IsUsable S.bls12381 key

/-- No half of a signature comes out as zero on the curves where it has halves that could. -/
def GivesHalves (key digest : Bytes) : Curve → Prop
  | .secp256k1 => Scheme.Secp256k1.HasSigningNonce S.secp256k1 S.attempts S.nonce key digest
  | .secp256r1 => Scheme.Secp256r1.HasSigningNonce S.secp256r1 S.attempts S.nonce key digest
  | .ed25519 | .bls12381 => True

variable {S} {curve : Curve} {key digest signature : Bytes} {recovery : Bool}

theorem length_of_signObligation
    (h : S.signObligation curve key digest recovery = .ok signature) :
    signature.length = curve.encodedSize recovery := by
  cases curve with
  | secp256k1 =>
    rw [Scheme.EcdsaScheme.length_of_signObligation h]
    cases recovery <;> rfl
  | secp256r1 =>
    rw [Scheme.EcdsaScheme.length_of_signObligation h]
    cases recovery <;> rfl
  | ed25519 =>
    obtain ⟨rfl, -, -, rfl⟩ := Scheme.Ed25519.signObligation_eq_ok_iff.1 h
    exact S.ed25519.length_sign key digest
  | bls12381 =>
    rw [SyntheticKey.length_of_sign h]
    cases recovery <;> rfl

theorem sign_eq_signObligation :
    S.sign curve key digest recovery = S.signObligation curve key digest recovery := by
  cases made : S.signObligation curve key digest recovery with
  | error e => exact bind_eq_error_iff.2 (.inl made)
  | ok signature => exact sign_eq_ok_iff.2 ⟨made, length_of_signObligation made⟩

theorem exists_sign_iff (k1 : S.secp256k1.Lawful) (r1 : S.secp256r1.Lawful)
    (halves : S.Admits key digest recovery curve → S.GivesHalves key digest curve) :
    (∃ signature, S.sign curve key digest recovery = .ok signature) ↔
      S.Admits key digest recovery curve := by
  simp only [sign_eq_signObligation]
  cases curve with
  | secp256k1 =>
    have found (input : Scheme.IsEcdsaInput S.secp256k1 key digest) :=
      Scheme.Secp256k1.exists_signature k1 input (halves input)
    exact (Scheme.Secp256k1.isOver S.secp256k1 S.attempts S.nonce).exists_signObligation_iff found
  | secp256r1 =>
    have found (input : Scheme.IsEcdsaInput S.secp256r1 key digest) :=
      Scheme.Secp256r1.exists_signature r1 input (halves input)
    exact (Scheme.Secp256r1.isOver S.secp256r1 S.attempts S.nonce).exists_signObligation_iff found
  | ed25519 =>
    constructor
    · rintro ⟨signature, signed⟩
      obtain ⟨unset, length, nonempty, -⟩ := Scheme.Ed25519.signObligation_eq_ok_iff.1 signed
      exact ⟨unset, length, nonempty⟩
    · rintro ⟨unset, length, nonempty⟩
      exact ⟨_, Scheme.Ed25519.signObligation_eq_ok_iff.2 ⟨unset, length, nonempty, rfl⟩⟩
  | bls12381 => exact SyntheticKey.exists_sign_iff

section Code

variable {code : UInt32} {e : SignerError}

theorem code_of_signByCode_eq_error (known : curve.code = code)
    (h : S.signByCode code key digest recovery = .error e) : e.code = .signingFailure := by
  rw [signByCode_eq_mapError (Curve.ofCode?_eq_some_iff.2 known)] at h
  obtain ⟨cause, refused, rfl⟩ := mapError_eq_error_iff.1 h
  exact (S.failsWithin_sign curve key digest recovery _ refused).code_ofSigning

theorem exists_unsupportedCurve_iff :
    (∃ e, S.signByCode code key digest recovery = .error e ∧ e.code = .unsupportedCurve) ↔
      ∀ curve : Curve, curve.code ≠ code := by
  constructor
  · rintro ⟨e, refused, unsupported⟩ curve known
    have failed := code_of_signByCode_eq_error known refused
    exact absurd (failed.symm.trans unsupported) (by decide)
  · intro unknown
    cases found : Curve.ofCode code with
    | ok curve =>
      exact absurd (Curve.ofCode?_eq_some_iff.1 (Curve.ofCode_eq_ok_iff.1 found)) (unknown curve)
    | error e =>
      exact ⟨e, bind_eq_error_iff.2 (.inl found), (Curve.code_of_ofCode_eq_error found).1⟩

end Code

/-- The policy signs what it admits on the curve and nothing else, if no half of a signature comes
out as zero. What it signs has the size of the curve already as the scheme leaves it. By its code, a
curve is unknown or signs as itself, and then all refusals have one code. -/
theorem signs_exactly_admitted_inputs (S : Suite) (k1 : S.secp256k1.Lawful)
    (r1 : S.secp256r1.Lawful) (curve : Curve) (key digest : Bytes) (recovery : Bool) :
    ((S.Admits key digest recovery curve → S.GivesHalves key digest curve) →
      ((∃ signature, S.sign curve key digest recovery = .ok signature) ↔
        S.Admits key digest recovery curve)) ∧
    S.sign curve key digest recovery = S.signObligation curve key digest recovery ∧
    (∀ signature, S.sign curve key digest recovery = .ok signature →
      signature.length = curve.encodedSize recovery) ∧
    ∀ code : UInt32,
      ((∃ e, S.signByCode code key digest recovery = .error e ∧ e.code = .unsupportedCurve) ↔
        ∀ other : Curve, other.code ≠ code) ∧
      (curve.code = code →
        (∀ signature, S.signByCode code key digest recovery = .ok signature ↔
          S.sign curve key digest recovery = .ok signature) ∧
        ((∃ e, S.signByCode code key digest recovery = .error e) ↔
          ∃ e, S.sign curve key digest recovery = .error e) ∧
        ∀ e, S.signByCode code key digest recovery = .error e → e.code = .signingFailure) := by
  refine ⟨exists_sign_iff k1 r1, sign_eq_signObligation,
    fun signature signed => (sign_eq_ok_iff.1 signed).2,
    fun code => ⟨exists_unsupportedCurve_iff, fun known => ⟨fun signature => ?_, ?_,
      fun e => code_of_signByCode_eq_error known⟩⟩⟩
  · exact signByCode_eq_ok_iff (Curve.ofCode?_eq_some_iff.2 known)
  · simp only [signByCode_eq_mapError (Curve.ofCode?_eq_some_iff.2 known), mapError_eq_error_iff]
    constructor
    · exact fun ⟨_, e, refused, _⟩ => ⟨e, refused⟩
    · exact fun ⟨e, refused⟩ => ⟨_, e, refused, rfl⟩

/-- The first nonce of the key one for a digest of 32 equal bytes. -/
def nonceOfOne : Nat := 0x95fe14e941c2c4523921b7a4b43e0d9f65eab03978f1dea79d925992da7e5347

theorem signs_exactly_admitted_inputs_one :
    let key := Bytes.ofNat 32 1
    let digest : Bytes := List.replicate 32 3
    (∃ signature, standard.sign .secp256k1 key digest true = .ok signature ∧
      signature.length = 65) ∧
    (∃ e, standard.signByCode 0xecc00004 key digest true = .error e ∧ e.code = .signingFailure) ∧
    ∃ e, standard.signByCode 0xecc00005 key digest true = .error e ∧ e.code = .unsupportedCurve := by
  intro key digest
  obtain ⟨admission, -, size, -⟩ := signs_exactly_admitted_inputs standard lawful_secp256k1
    lawful_secp256r1 .secp256k1 key digest true
  obtain ⟨refusal, -, -, codes⟩ := signs_exactly_admitted_inputs standard lawful_secp256k1
    lawful_secp256r1 .ed25519 key digest true
  have input : Scheme.IsEcdsaInput standard.secp256k1 key digest :=
    ⟨Bytes.length_ofNat 32 1, by decide +kernel, by decide +kernel, List.length_replicate⟩
  have halves : standard.GivesHalves key digest .secp256k1 := by
    have nonce : standard.nonce key (Bytes.ofNat 32 (Bytes.toNat digest % standard.secp256k1.order))
        0 = nonceOfOne := by decide +kernel
    refine ⟨0, by decide, ?_, fun j earlier => absurd earlier (Nat.not_lt_zero j), ?_⟩
    · rw [nonce]
      decide
    · rw [nonce]
      decide +kernel
  obtain ⟨signature, signed⟩ := (admission fun _ => halves).2 input
  have refused : ∃ e, standard.sign .ed25519 key digest true = .error e := by
    cases made : standard.sign .ed25519 key digest true with
    | ok signature => exact absurd ((refusal fun _ => trivial).1 ⟨signature, made⟩).1 (by decide)
    | error e => exact ⟨e, rfl⟩
  obtain ⟨-, failing, only⟩ := (codes 0xecc00004).2 rfl
  obtain ⟨e, failed⟩ := failing.2 refused
  exact ⟨⟨signature, signed, size signature signed⟩, ⟨e, failed, only e failed⟩,
    (codes 0xecc00005).1.2 fun other => by cases other <;> decide⟩

end Suite

end CustodySigner
