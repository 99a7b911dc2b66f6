import CustodySigner.Proofs.Scheme.Acceptance
import CustodySigner.Proofs.Signing

set_option autoImplicit false
set_option relaxedAutoImplicit false

/-!
What the policy signs verifies under the public key that belongs to the private key. On the curves
of ECDSA this follows from the laws of the groups; the other schemes are taken at their word.
-/

namespace CustodySigner

/-- The signature that the scheme makes with the key verifies under its public key of that key. -/
def EdwardsScheme.SelfVerifies (E : EdwardsScheme) (key digest : Bytes) : Prop :=
  E.verify? (E.publicKey key) digest (E.sign key digest) = some true

/-- The signature that the scheme makes with the secret number verifies under its public key of that
number. -/
def PairingScheme.SelfVerifies (P : PairingScheme) (secret : Nat) (digest : Bytes) : Prop :=
  P.verify (P.encode (P.multiply secret P.base)) digest
    (P.sign secret (P.encode (P.multiply secret P.base) ++ digest)) = .ok true

theorem Scheme.Ed25519.verify_take {E : EdwardsScheme} {key digest bytes : Bytes}
    {recovery : Bool} (trusted : key.length = 32 → E.SelfVerifies key digest)
    (h : Scheme.Ed25519.signObligation E key digest recovery = .ok bytes) :
    ∃ pk, Scheme.Ed25519.publicKey E key = .ok pk ∧
      Scheme.Ed25519.verify E pk digest (bytes.take 64) = .ok true := by
  obtain ⟨-, length, -, rfl⟩ := Scheme.Ed25519.signObligation_eq_ok_iff.1 h
  refine ⟨E.publicKey key,
    bind_eq_ok_iff.2 ⟨key, Scheme.key32_eq_ok_iff.2 ⟨length, rfl⟩, rfl⟩, ?_⟩
  rw [List.take_of_length_le (E.length_sign key digest).le]
  have valid : E.verify? (E.publicKey key) digest (E.sign key digest) = some true :=
    trusted length
  simp only [Scheme.Ed25519.verify, E.length_publicKey, ne_eq, not_true_eq_false, ↓reduceIte,
    Scheme.signature64_of_length (E.length_sign key digest), bind, Except.bind, valid]
  rfl

theorem SyntheticKey.verify_take {P : PairingScheme} {key digest bytes : Bytes}
    (trusted : ∀ synthetic, SyntheticKey.secret P key SyntheticKey.defaultHiddenPuzzle =
      .ok synthetic → P.SelfVerifies (Bytes.toNat synthetic) digest)
    (h : SyntheticKey.sign P key digest = .ok bytes) :
    ∃ pk, SyntheticKey.publicKey P key = .ok pk ∧
      Scheme.Bls12381.verify P pk digest (bytes.take 96) = .ok true := by
  obtain ⟨n, reduced, nonzero, rfl⟩ := sign_eq_ok_iff.1 h
  refine ⟨_, publicKey_eq_ok_iff.2 ⟨n, reduced, nonzero, rfl⟩, ?_⟩
  -- signing and publishing shift the key alike, so both use the synthetic scalar
  have valid := trusted _ (secret_of_exponent reduced)
  rw [toNat_ofNat_shifted] at valid
  change P.verify (Scheme.Bls12381.pointBytes P (scalar P n)) digest
    (P.sign (scalar P n) (Scheme.Bls12381.pointBytes P (scalar P n) ++ digest)) = .ok true at valid
  rw [List.take_of_length_le (P.length_sign _ _).le]
  simp only [Scheme.Bls12381.verify, valid]

namespace Suite

variable {S : Suite}

/-- What is known of the primitives for a key and a digest: the groups of ECDSA are lawful, and the
other schemes verify what they sign with the scalar in use. -/
def Trusted (S : Suite) : Curve → (key digest : Bytes) → Prop
  | .secp256k1, _, _ => S.secp256k1.Lawful
  | .secp256r1, _, _ => S.secp256r1.Lawful
  | .ed25519, key, digest => key.length = 32 → S.ed25519.SelfVerifies key digest
  | .bls12381, key, digest => ∀ synthetic,
    SyntheticKey.secret S.bls12381 key SyntheticKey.defaultHiddenPuzzle = .ok synthetic →
      S.bls12381.SelfVerifies (Bytes.toNat synthetic) digest

theorem verify_take_of_sign {curve : Curve} {key digest bytes : Bytes} {recovery : Bool}
    (trusted : S.Trusted curve key digest)
    (h : S.sign curve key digest recovery = .ok bytes) :
    ∃ pk, S.publicKey curve key = .ok pk ∧
      S.verify curve pk digest (bytes.take curve.signatureSize) = .ok true := by
  obtain ⟨made, -⟩ := Suite.sign_eq_ok_iff.1 h
  cases curve with
  | secp256k1 => exact Scheme.Secp256k1.verify_take trusted made
  | secp256r1 => exact Scheme.Secp256r1.verify_take trusted made
  | ed25519 => exact Scheme.Ed25519.verify_take trusted made
  | bls12381 => exact SyntheticKey.verify_take trusted made

end Suite

end CustodySigner
