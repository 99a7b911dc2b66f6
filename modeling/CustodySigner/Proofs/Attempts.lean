import CustodySigner.Derivation.Path
import CustodySigner.Proofs.Derivation.Reference
import CustodySigner.Proofs.Scheme.Recovery
import CustodySigner.Proofs.Signing

set_option autoImplicit false
set_option relaxedAutoImplicit false

/-!
The bound on the attempts of loops. What is derived or signed within a bound is derived and signed alike
within every greater one, so that the bound decides nothing but whether a loop ends.
-/

namespace CustodySigner

namespace Ecdsa

variable {G : CurveGroup} {attempts more : Nat} {candidate : Nat → Nat}

theorem sign?_of_le {secret digest : Nat} {found : Signature × RecoveryId} (le : attempts ≤ more)
    (h : sign? G attempts candidate secret digest = some found) :
    sign? G more candidate secret digest = some found := by
  obtain ⟨rest, rfl⟩ := Nat.exists_eq_add_of_le le
  unfold sign? at h ⊢
  rw [List.range_add, List.findSome?_append, h]
  rfl

theorem firstScalar?_of_le {nonce : Nat} (le : attempts ≤ more)
    (h : firstScalar? G attempts candidate = some nonce) :
    firstScalar? G more candidate = some nonce := by
  obtain ⟨rest, rfl⟩ := Nat.exists_eq_add_of_le le
  obtain ⟨i, first, rfl⟩ := Option.map_eq_some_iff.1 h
  unfold firstScalar?
  rw [List.range_add, List.find?_append, first]
  rfl

end Ecdsa

namespace Scheme

open Ecdsa

variable {G : CurveGroup} {attempts more : Nat} {nonce : Bytes → Bytes → Nat → Nat}
  {key digest : Bytes} {found : Signature × RecoveryId}

theorem Secp256k1.signature_of_le (le : attempts ≤ more)
    (h : Secp256k1.signature G attempts nonce key digest = .ok found) :
    Secp256k1.signature G more nonce key digest = .ok found := by
  obtain ⟨n, known, sized⟩ := bind_eq_ok_iff.1 h
  obtain ⟨digest', same, made⟩ := bind_eq_ok_iff.1 sized
  refine bind_eq_ok_iff.2 ⟨n, known, bind_eq_ok_iff.2 ⟨digest', same, ?_⟩⟩
  dsimp only at made ⊢
  split at made
  · rename_i signed
    rw [sign?_of_le le signed]
    exact made
  · cases made

theorem Secp256r1.signature_of_le (le : attempts ≤ more)
    (h : Secp256r1.signature G attempts nonce key digest = .ok found) :
    Secp256r1.signature G more nonce key digest = .ok found := by
  obtain ⟨n, known, sized⟩ := bind_eq_ok_iff.1 h
  obtain ⟨digest', same, made⟩ := bind_eq_ok_iff.1 sized
  refine bind_eq_ok_iff.2 ⟨n, known, bind_eq_ok_iff.2 ⟨digest', same, ?_⟩⟩
  split at made
  · rename_i signed
    obtain ⟨k, first, half⟩ := Option.bind_eq_some_iff.1 signed
    rw [firstScalar?_of_le le first, Option.bind_some, half]
    exact made
  · cases made

/-- What an obligation is signed with is made of the signature that the scheme finds. -/
theorem EcdsaScheme.signObligation_of_signature {E E' : EcdsaScheme} (order : E'.order = E.order)
    (kept : ∀ found, E.signature key digest = .ok found → E'.signature key digest = .ok found)
    {recovery : Bool} {bytes : Bytes} (h : E.signObligation key digest recovery = .ok bytes) :
    E'.signObligation key digest recovery = .ok bytes := by
  obtain ⟨sig, id, made⟩ := exists_signature_of_signObligation h
  rw [← h]
  simp only [signObligation, sign, signRecoverable, order, made, kept _ made]

end Scheme

theorem Slip10.Secp256r1.derive_of_le {mac : Bytes → Bytes → Bytes} {G : CurveGroup}
    (length : ∀ key message, (mac key message).length = 64) {attempts more : Nat}
    (le : attempts ≤ more) {seed bytes : Bytes} {path : KeyPath}
    (h : derive mac G attempts seed path = .ok bytes) :
    derive mac G more seed path = .ok bytes := by
  obtain ⟨key, made, rfl⟩ := derive_eq_ok_iff_keyAt.1 h
  obtain ⟨counts, node, reached, within, rfl⟩ := (keyAt_eq_ok_iff length).1 made
  refine derive_eq_ok_iff_keyAt.2 ⟨_, (keyAt_eq_ok_iff length).2 ⟨counts, node, reached, ?_, rfl⟩, rfl⟩
  exact fun retries mem => (within retries mem).trans_le le

namespace Suite

variable {S : Suite} {attempts : Nat} {curve : Curve}

theorem derive_of_attempts_le (le : S.attempts ≤ attempts) {seed key : Bytes} {path : KeyPath}
    (h : S.derive curve seed path = .ok key) :
    { S with attempts := attempts }.derive curve seed path = .ok key := by
  cases curve with
  | secp256r1 => exact Slip10.Secp256r1.derive_of_le S.length_mac le h
  | secp256k1 | ed25519 | bls12381 => exact h

theorem sign_of_attempts_le (le : S.attempts ≤ attempts) {key digest signature : Bytes}
    {recovery : Bool} (h : S.sign curve key digest recovery = .ok signature) :
    { S with attempts := attempts }.sign curve key digest recovery = .ok signature := by
  obtain ⟨signed, size⟩ := sign_eq_ok_iff.1 h
  refine sign_eq_ok_iff.2 ⟨?_, size⟩
  cases curve with
  | ed25519 | bls12381 => exact signed
  | secp256k1 =>
    have order : { S with attempts := attempts }.secp256k1Scheme.order =
        S.secp256k1Scheme.order := rfl
    exact Scheme.EcdsaScheme.signObligation_of_signature order
      (fun _ => Scheme.Secp256k1.signature_of_le le) signed
  | secp256r1 =>
    have order : { S with attempts := attempts }.secp256r1Scheme.order =
        S.secp256r1Scheme.order := rfl
    exact Scheme.EcdsaScheme.signObligation_of_signature order
      (fun _ => Scheme.Secp256r1.signature_of_le le) signed

end Suite

end CustodySigner
