import CustodySigner.Proofs.Ecdsa.Recovery
import CustodySigner.Proofs.Scheme.Ecdsa

set_option autoImplicit false
set_option relaxedAutoImplicit false

/-!
Signatures with and without a recovery byte. A scheme finds one signature for a key and a digest;
with the byte or without, its low form comes first, and the byte recovers the key's public key. The
two schemes refuse different inputs, and share what they do with those that they accept.
-/

namespace CustodySigner.Scheme

open Ecdsa

/-- What the scheme accepts, it signs, publishes and recovers by ECDSA over the group. -/
structure EcdsaScheme.IsOver (E : EcdsaScheme) (G : CurveGroup) : Prop where
  order_eq : E.order = G.order
  signed {key digest : Bytes} {sig : Signature} {id : RecoveryId} :
    E.signature key digest = .ok (sig, id) →
      ∃ nonce, key.length = 32 ∧ isScalar G (Bytes.toNat key) = true ∧ digest.length = 32 ∧
        isScalar G nonce = true ∧
        signWith? G nonce (Bytes.toNat key) (Bytes.toNat digest) = some (sig, id)
  published {key : Bytes} : key.length = 32 → isScalar G (Bytes.toNat key) = true →
    E.publicKey key = compressed G (publicPoint G (Bytes.toNat key))
  recovered {digest : Bytes} {sig : Signature} {id : RecoveryId} {P : G.Point} :
    digest.length = 32 → isScalar G sig.r = true → isScalar G sig.s = true →
      recover? G (Bytes.toNat digest) sig id = some P →
      E.recover digest sig.toBytes id.toByte = compressed G P

section

variable {G : CurveGroup}

theorem ofBytes_toBytes_of_isScalar {sig : Signature} (scalar_r : isScalar G sig.r = true)
    (scalar_s : isScalar G sig.s = true) : Signature.ofBytes sig.toBytes = sig := by
  have bound_r := (isScalar_iff.1 scalar_r).2
  have bound_s := (isScalar_iff.1 scalar_s).2
  exact Signature.ofBytes_toBytes (lt_of_lt_of_le bound_r G.order_le)
    (lt_of_lt_of_le bound_s G.order_le)

theorem Secp256k1.isOver (G : CurveGroup) (attempts : Nat) (nonce : Bytes → Bytes → Nat → Nat) :
    (Secp256k1.scheme G attempts nonce).IsOver G where
  order_eq := rfl
  signed {key digest sig id} h := by
    change Secp256k1.signature G attempts nonce key digest = .ok (sig, id) at h
    obtain ⟨n, k, known, size, scalar, half⟩ := Secp256k1.exists_nonce_of_signature h
    obtain ⟨length, rfl, secret⟩ := ecdsaSecret_eq_ok_iff.1 known
    exact ⟨k, length, secret, size, scalar, half⟩
  published {key} length scalar := by
    have known : Secp256k1.secret G key = .ok (Bytes.toNat key) :=
      ecdsaSecret_eq_ok_iff.2 ⟨length, rfl, scalar⟩
    change Secp256k1.publicKey G key = _
    rw [Secp256k1.publicKey, known]
    rfl
  recovered size scalar_r scalar_s found := by
    have halves := ofBytes_toBytes_of_isScalar scalar_r scalar_s
    have bound_r := (isScalar_iff.1 scalar_r).2
    have bound_s := (isScalar_iff.1 scalar_s).2
    change Secp256k1.recover G _ _ _ = _
    simp only [Secp256k1.recover, signature64_of_length Signature.length_toBytes,
      RecoveryId.ofByte?_toByte, Secp256k1.readSignature, halves, bound_r, bound_s, decide_true,
      Bool.and_self, if_true, digest32_eq_ok_iff.2 ⟨size, rfl⟩, bind, Except.bind, found]

theorem Secp256r1.readSignature_toBytes {sig : Signature} (scalar_r : isScalar G sig.r = true)
    (scalar_s : isScalar G sig.s = true) : readSignature G sig.toBytes = .ok sig := by
  simp [readSignature, ofBytes_toBytes_of_isScalar scalar_r scalar_s, scalar_r, scalar_s]

theorem Secp256r1.isOver (G : CurveGroup) (attempts : Nat) (nonce : Bytes → Bytes → Nat → Nat) :
    (Secp256r1.scheme G attempts nonce).IsOver G where
  order_eq := rfl
  signed {key digest sig id} h := by
    change Secp256r1.signature G attempts nonce key digest = .ok (sig, id) at h
    obtain ⟨n, k, known, size, scalar, half⟩ := Secp256r1.exists_nonce_of_signature h
    obtain ⟨length, rfl, secret⟩ := ecdsaSecret_eq_ok_iff.1 known
    exact ⟨k, length, secret, size, scalar, half⟩
  published {key} length scalar := by
    have known : Secp256r1.secret G key = .ok (Bytes.toNat key) :=
      ecdsaSecret_eq_ok_iff.2 ⟨length, rfl, scalar⟩
    change Secp256r1.publicKey G key = _
    rw [Secp256r1.publicKey, known]
    rfl
  recovered size scalar_r scalar_s found := by
    change Secp256r1.recover G _ _ _ = _
    simp only [Secp256r1.recover, digest32_eq_ok_iff.2 ⟨size, rfl⟩,
      Secp256r1.readSignature_toBytes scalar_r scalar_s, RecoveryId.ofByte?_toByte, bind,
      Except.bind, found]

end

namespace EcdsaScheme

variable {E : EcdsaScheme} {key digest : Bytes}

theorem exists_signature_of_signObligation {recovery : Bool} {bytes : Bytes}
    (h : E.signObligation key digest recovery = .ok bytes) :
    ∃ sig id, E.signature key digest = .ok (sig, id) := by
  obtain ⟨sig, id, made, -⟩ := take_signObligation h
  exact ⟨sig, id, made⟩

theorem signObligation_plain {sig : Signature} {id : RecoveryId}
    (made : E.signature key digest = .ok (sig, id)) :
    E.signObligation key digest false = .ok (sig.low E.order).toBytes := by
  simp only [signObligation, sign, made, bind, Except.bind]
  rfl

theorem signObligation_recoverable {sig : Signature} {id id' : RecoveryId}
    (made : E.signature key digest = .ok (sig, id))
    (low : normalize E.order sig (some id) = (sig.low E.order, some id')) :
    E.signObligation key digest true = .ok ((sig.low E.order).toBytes ++ [id'.toByte]) := by
  simp only [signObligation, signRecoverable, made, bind, Except.bind, low]
  rfl

/-- The encoded signature differs by the byte alone, is low, and recovers the public key. -/
theorem IsOver.recovers {G : CurveGroup} (based : E.IsOver G) (lawful : G.Lawful)
    (once : G.ReducesOnce) {recovery : Bool} {bytes : Bytes}
    (h : E.signObligation key digest recovery = .ok bytes) :
    ∃ plain v publicKey,
      E.signObligation key digest false = .ok plain ∧
      E.signObligation key digest true = .ok (plain ++ [v]) ∧
      plain.length = 64 ∧ v ≤ 3 ∧
      1 ≤ Bytes.toNat (plain.drop 32) ∧ Bytes.toNat (plain.drop 32) ≤ (E.order - 1) / 2 ∧
      E.publicKey key = .ok publicKey ∧
      E.recover digest ((plain ++ [v]).take 64) v = .ok publicKey := by
  obtain ⟨sig, id, made⟩ := exists_signature_of_signObligation h
  obtain ⟨nonce, length, secret, size, scalar, half⟩ := based.signed made
  obtain ⟨id', normal, found⟩ := recover?_normalize lawful once scalar secret half
  -- the low form has scalars for halves, since it verifies
  have valid := verifies_low lawful (verifies_of_signWith? lawful scalar half)
  obtain ⟨scalar_r, scalar_s, -⟩ := (verifies_iff lawful).1 valid
  obtain ⟨publicKey, -, written, -⟩ := exists_compress? lawful secret
  rw [← based.order_eq] at normal
  have low : sig.low E.order = sig.low G.order := by rw [based.order_eq]
  have half_s : (sig.low G.order).toBytes.drop 32 = Bytes.ofNat 32 (sig.low G.order).s := by
    simp [Signature.toBytes]
  have bound : (sig.low G.order).s < Bytes.range32 :=
    lt_of_lt_of_le (isScalar_iff.1 scalar_s).2 G.order_le
  have least : (sig.low G.order).s ≤ (G.order - 1) / 2 := by
    have notHigh : (sig.low G.order).isHigh G.order = false := Signature.isHigh_low
    have odd := order_odd lawful
    simp only [Signature.isHigh, decide_eq_false_iff_not] at notHigh
    omega
  refine ⟨(sig.low G.order).toBytes, id'.toByte, publicKey, ?_, ?_, Signature.length_toBytes,
    id'.toByte_le, ?_, ?_, ?_, ?_⟩
  · rw [signObligation_plain made, low]
  · rw [signObligation_recoverable made normal, low]
  · rw [half_s, Bytes.toNat_ofNat_32 bound]
    exact (isScalar_iff.1 scalar_s).1
  · rw [half_s, Bytes.toNat_ofNat_32 bound, based.order_eq]
    exact least
  · rw [based.published length secret]
    exact compressed_eq_ok written
  · have front : ((sig.low G.order).toBytes ++ [id'.toByte]).take 64 = (sig.low G.order).toBytes :=
      List.take_left' Signature.length_toBytes
    rw [front, based.recovered size scalar_r scalar_s found]
    exact compressed_eq_ok written

end EcdsaScheme

end CustodySigner.Scheme
