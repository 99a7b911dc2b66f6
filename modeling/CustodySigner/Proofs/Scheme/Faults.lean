import CustodySigner.Proofs.Except
import CustodySigner.Signing

set_option autoImplicit false
set_option relaxedAutoImplicit false

/-!
The kinds of errors that signing gives. It fails over the private key, over the digest or as such,
whatever bytes are taken for the key.
-/

namespace CustodySigner

namespace CurveError

/-- The error is of a kind that signing gives. -/
def IsSigningFault (e : CurveError) : Prop :=
  e.kind = .invalidPrivateKey ∨ e.kind = .invalidDigest ∨ e.kind = .signingFailed

theorem isSigningFault_key {reason : String} : IsSigningFault ⟨.invalidPrivateKey, reason⟩ :=
  .inl rfl

theorem isSigningFault_digest {reason : String} : IsSigningFault ⟨.invalidDigest, reason⟩ :=
  .inr (.inl rfl)

theorem isSigningFault_signing {reason : String} : IsSigningFault ⟨.signingFailed, reason⟩ :=
  .inr (.inr rfl)

theorem IsSigningFault.code_ofSigning {e : CurveError} (h : e.IsSigningFault) :
    (SignerError.ofSigning e).code = .signingFailure := by
  obtain ⟨kind, reason⟩ := e
  rcases h with h | h | h <;> cases h <;> rfl

end CurveError

open CurveError

namespace Scheme

theorem failsWithin_key32 (key : Bytes) : FailsWithin IsSigningFault (key32 key) := by
  unfold key32
  split
  · exact .ok key
  · exact .error isSigningFault_key

theorem failsWithin_digest32 (digest : Bytes) : FailsWithin IsSigningFault (digest32 digest) := by
  unfold digest32
  split
  · exact .ok digest
  · exact .error isSigningFault_digest

theorem failsWithin_ecdsaSecret (G : CurveGroup) (refusal : String) (key : Bytes) :
    FailsWithin IsSigningFault (ecdsaSecret G refusal key) := by
  refine (failsWithin_key32 key).bind fun b => ?_
  dsimp only
  split
  · exact .ok _
  · exact .error isSigningFault_key

theorem Secp256k1.failsWithin_signature (G : CurveGroup) (attempts : Nat)
    (nonce : Bytes → Bytes → Nat → Nat) (key digest : Bytes) :
    FailsWithin IsSigningFault (signature G attempts nonce key digest) := by
  refine (failsWithin_ecdsaSecret G _ key).bind fun n => ?_
  refine (failsWithin_digest32 digest).bind fun digest => ?_
  dsimp only
  split
  · exact .ok _
  · exact .error isSigningFault_signing

theorem Secp256r1.failsWithin_signature (G : CurveGroup) (attempts : Nat)
    (nonce : Bytes → Bytes → Nat → Nat) (key digest : Bytes) :
    FailsWithin IsSigningFault (signature G attempts nonce key digest) := by
  refine (failsWithin_ecdsaSecret G _ key).bind fun n => ?_
  refine (failsWithin_digest32 digest).bind fun digest => ?_
  split
  · exact .ok _
  · exact .error isSigningFault_signing

theorem EcdsaScheme.failsWithin_signObligation {E : EcdsaScheme} {key digest : Bytes}
    (h : FailsWithin IsSigningFault (E.signature key digest)) (recovery : Bool) :
    FailsWithin IsSigningFault (E.signObligation key digest recovery) := by
  cases recovery with
  | false => exact h.bind fun found => .ok _
  | true =>
    have recoverable : FailsWithin IsSigningFault (E.signRecoverable key digest) := by
      refine h.bind fun found => ?_
      exact .ok _
    exact recoverable.map _

theorem Ed25519.failsWithin_signObligation (E : EdwardsScheme) (key digest : Bytes)
    (recovery : Bool) : FailsWithin IsSigningFault (signObligation E key digest recovery) := by
  cases recovery with
  | true => exact .error isSigningFault_signing
  | false =>
    by_cases empty : digest = []
    · simp only [signObligation, sign, empty]
      exact .error isSigningFault_digest
    · simp only [signObligation, sign, empty, Bool.false_eq_true, ↓reduceIte]
      exact (failsWithin_key32 key).bind fun b => .ok _

theorem Bls12381.failsWithin_secret (P : PairingScheme) (key : Bytes) :
    FailsWithin IsSigningFault (secret P key) := by
  refine (failsWithin_key32 key).bind fun b => ?_
  dsimp only
  split
  · exact .ok _
  · exact .error isSigningFault_key

theorem Bls12381.failsWithin_sign (P : PairingScheme) (key digest : Bytes) :
    FailsWithin IsSigningFault (sign P key digest) :=
  (failsWithin_secret P key).bind fun _ => .ok _

end Scheme

namespace SyntheticKey

variable (P : PairingScheme)

theorem failsWithin_exponent (key : Bytes) : FailsWithin IsSigningFault (exponent P key) := by
  unfold exponent
  split
  · exact .error isSigningFault_key
  · dsimp only
    split
    · exact .error isSigningFault_signing
    · exact .ok _

theorem failsWithin_secret (key hiddenPuzzle : Bytes) :
    FailsWithin IsSigningFault (secret P key hiddenPuzzle) := by
  refine (failsWithin_exponent P key).bind fun n => ?_
  refine FailsWithin.bind ?_ fun _ => .ok _
  exact (Scheme.Bls12381.failsWithin_secret P _).bind fun _ => .ok _

theorem failsWithin_sign (key digest : Bytes) :
    FailsWithin IsSigningFault (sign P key digest) :=
  (failsWithin_secret P key _).bind fun _ => Scheme.Bls12381.failsWithin_sign P _ digest

end SyntheticKey

namespace Suite

variable (S : Suite)

theorem failsWithin_signObligation (curve : Curve) (key digest : Bytes) (recovery : Bool) :
    FailsWithin IsSigningFault (S.signObligation curve key digest recovery) := by
  cases curve with
  | secp256k1 =>
    exact Scheme.EcdsaScheme.failsWithin_signObligation
      (Scheme.Secp256k1.failsWithin_signature S.secp256k1 S.attempts S.nonce key digest) recovery
  | secp256r1 =>
    exact Scheme.EcdsaScheme.failsWithin_signObligation
      (Scheme.Secp256r1.failsWithin_signature S.secp256r1 S.attempts S.nonce key digest) recovery
  | ed25519 => exact Scheme.Ed25519.failsWithin_signObligation S.ed25519 key digest recovery
  | bls12381 => exact SyntheticKey.failsWithin_sign S.bls12381 key digest

theorem failsWithin_sign (curve : Curve) (key digest : Bytes) (recovery : Bool) :
    FailsWithin IsSigningFault (S.sign curve key digest recovery) := by
  refine (S.failsWithin_signObligation curve key digest recovery).bind fun signature => ?_
  dsimp only
  split
  · exact .error isSigningFault_signing
  · exact .ok signature

end Suite

end CustodySigner
