import CustodySigner.Proofs.Ecdsa.LowForm
import CustodySigner.Proofs.Group.Spanned
import CustodySigner.Proofs.Scheme.Recovery
import CustodySigner.Signing

set_option autoImplicit false
set_option relaxedAutoImplicit false

/-!
Low forms on secp256r1, where signatures in high form are valid too. Bringing any signature and any id
to low form changes neither the public key that is recovered nor the public keys under which the
signature verifies, also where there is no key to recover or the signature is not valid.
-/

namespace CustodySigner

namespace Scheme.Secp256r1

open Ecdsa

variable {G : CurveGroup} {sig : Signature} {key digest : Bytes}

theorem exists_multiple_of_readPublicKey (spanned : G.Spanned) {P : G.Point}
    (h : readPublicKey G key = .ok P) : ∃ k, P = G.multiple k := by
  unfold readPublicKey at h
  split_ifs at h
  split at h
  · cases h
  · cases h
  · split at h
    · rename_i read
      obtain rfl := Except.ok.inj h
      exact EncodedPoint.exists_multiple spanned read
    · cases h

theorem verify_low (lawful : G.Lawful) (spanned : G.Spanned) (scalar_r : isScalar G sig.r = true)
    (scalar_s : isScalar G sig.s = true) :
    verify G key digest (sig.low G.order).toBytes = verify G key digest sig.toBytes := by
  have scalar_r' : isScalar G (sig.low G.order).r = true := by rwa [Signature.r_low]
  have scalar_s' := isScalar_s_low lawful scalar_s
  unfold verify
  rw [signature64_of_length Signature.length_toBytes, signature64_of_length Signature.length_toBytes]
  simp only [bind, Except.bind]
  rw [readSignature_toBytes scalar_r scalar_s, readSignature_toBytes scalar_r' scalar_s']
  cases read : readPublicKey G key with
  | error e => rfl
  | ok P =>
    obtain ⟨k, rfl⟩ := exists_multiple_of_readPublicKey spanned read
    simp only [verifies_low_eq lawful scalar_s]

theorem recover_low (lawful : G.Lawful) (spanned : G.Spanned) (scalar_r : isScalar G sig.r = true)
    (scalar_s : isScalar G sig.s = true) (id : RecoveryId) :
    recover G digest (sig.low G.order).toBytes
        { id with yOdd := id.yOdd != sig.isHigh G.order : RecoveryId }.toByte =
      recover G digest sig.toBytes id.toByte := by
  have scalar_r' : isScalar G (sig.low G.order).r = true := by rwa [Signature.r_low]
  have scalar_s' := isScalar_s_low lawful scalar_s
  unfold recover
  rw [readSignature_toBytes scalar_r scalar_s, readSignature_toBytes scalar_r' scalar_s']
  simp only [RecoveryId.ofByte?_toByte, bind, Except.bind,
    recover?_low lawful spanned scalar_r scalar_s]

end Scheme.Secp256r1

namespace Suite

open Ecdsa (Signature RecoveryId normalize)

/-- The low form of a secp256r1 signature has the lesser of the second half and its negative, which is
at most half the order. The parity in the id is flipped exactly where the half has changed, and the
other bit stays. A low form is its own low form. For every digest, the low form recovers what the
signature recovers, be it a public key or a failure; and every public key accepts, rejects or fails on
both alike. -/
theorem low_form_keeps_meaning (S : Suite) (lawful : S.secp256r1.Lawful)
    (spanned : S.secp256r1.Spanned) (sig : Signature)
    (r : 1 ≤ sig.r ∧ sig.r < S.secp256r1.order) (s : 1 ≤ sig.s ∧ sig.s < S.secp256r1.order)
    (id : Option RecoveryId) :
    let order := S.secp256r1.order
    let low := normalize order sig id
    low.1.r = sig.r ∧ low.1.s = min sig.s (order - sig.s) ∧ low.1.s ≤ (order - 1) / 2 ∧
    low.2.isSome = id.isSome ∧
    (∀ known ∈ id, ∀ known' ∈ low.2,
      known'.xReduced = known.xReduced ∧ (known'.yOdd ≠ known.yOdd ↔ low.1.s ≠ sig.s) ∧
      ∀ digest, S.secp256r1Scheme.recover digest low.1.toBytes known'.toByte =
        S.secp256r1Scheme.recover digest sig.toBytes known.toByte) ∧
    normalize order low.1 low.2 = low ∧
    ∀ publicKey digest, S.verify .secp256r1 publicKey digest low.1.toBytes =
      S.verify .secp256r1 publicKey digest sig.toBytes := by
  intro order low
  have scalar_r := Ecdsa.isScalar_iff.2 r
  have scalar_s := Ecdsa.isScalar_iff.2 s
  refine ⟨Signature.r_low, Signature.s_low, Ecdsa.s_low_le lawful sig, Option.isSome_map, ?_,
    Ecdsa.normalize_normalize order sig id,
    fun _ _ => Scheme.Secp256r1.verify_low lawful spanned scalar_r scalar_s⟩
  rintro known rfl known' found
  obtain rfl := Option.some.inj found
  refine ⟨rfl, ?_, fun _ => Scheme.Secp256r1.recover_low lawful spanned scalar_r scalar_s known⟩
  change (known.yOdd != sig.isHigh order) ≠ known.yOdd ↔ (sig.low order).s ≠ sig.s
  rw [← Signature.isHigh_iff]
  cases known.yOdd <;> cases sig.isHigh order <;> decide

/-- The signature with the highest second half whose nonce point is the base point. -/
def highestSignature : Signature where
  r := 0x6b17d1f2e12c4247f8bce6e563a440f277037d812deb33a0f4a13945d898c296
  s := standard.secp256r1.order - 1

set_option maxRecDepth 10000 in
theorem low_form_keeps_meaning_highestSignature :
    let lowest : Signature := ⟨highestSignature.r, 1⟩
    let digest : Bytes := List.replicate 32 3
    normalize standard.secp256r1.order highestSignature (some ⟨true, false⟩) =
        (lowest, some ⟨false, false⟩) ∧
      ∃ publicKey,
        standard.secp256r1Scheme.recover digest highestSignature.toBytes 1 = .ok publicKey ∧
        standard.secp256r1Scheme.recover digest lowest.toBytes 0 = .ok publicKey ∧
        standard.verify .secp256r1 publicKey digest highestSignature.toBytes = .ok true ∧
        standard.verify .secp256r1 publicKey digest lowest.toBytes = .ok true := by
  intro lowest digest
  have brought : normalize standard.secp256r1.order highestSignature (some ⟨true, false⟩) =
      (lowest, some ⟨false, false⟩) := by decide +kernel
  obtain ⟨-, -, -, -, recovers, -, verifies⟩ := low_form_keeps_meaning standard lawful_secp256r1
    spanned_secp256r1 highestSignature (by decide) (by decide) (some ⟨true, false⟩)
  rw [brought] at recovers verifies
  obtain ⟨-, -, same⟩ := recovers ⟨true, false⟩ rfl ⟨false, false⟩ rfl
  have valid : (standard.secp256r1Scheme.recover digest highestSignature.toBytes 1).toOption.any
      (fun publicKey => (standard.verify .secp256r1 publicKey digest
        highestSignature.toBytes).toOption == some true) = true := by decide +kernel
  obtain ⟨publicKey, found, accepted⟩ := (Option.any_eq_true _ _).1 valid
  have recovered := eq_ok_of_toOption found
  have accepts := eq_ok_of_toOption (eq_of_beq accepted)
  exact ⟨brought, publicKey, recovered, (same digest).trans recovered, accepts,
    (verifies publicKey digest).trans accepts⟩

end Suite

end CustodySigner
