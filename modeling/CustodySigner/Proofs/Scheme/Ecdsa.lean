import CustodySigner.Proofs.Ecdsa.PublicKey
import CustodySigner.Proofs.Scheme.Input
import CustodySigner.Scheme.Secp256k1
import CustodySigner.Scheme.Secp256r1

set_option autoImplicit false
set_option relaxedAutoImplicit false

/-!
What the ECDSA schemes sign verifies under the key that they publish, with the recovery byte taken
away where there is one. The two schemes sign and read differently, and share the reason.
-/

namespace CustodySigner.Scheme

open Ecdsa

theorem EcdsaScheme.take_signObligation {E : EcdsaScheme} {key digest signature : Bytes}
    {recovery : Bool} (h : E.signObligation key digest recovery = .ok signature) :
    ∃ sig id, E.signature key digest = .ok (sig, id) ∧
      signature.take 64 = (sig.low E.order).toBytes := by
  unfold signObligation at h
  cases recovery with
  | false =>
    obtain ⟨⟨sig, id⟩, made, h⟩ := bind_eq_ok_iff.1 h
    obtain rfl : (sig.low E.order).toBytes = signature := Except.ok.inj h
    exact ⟨sig, id, made, List.take_of_length_le (by simp)⟩
  | true =>
    obtain ⟨⟨bytes, v⟩, recoverable, rfl⟩ := map_eq_ok_iff.1 h
    obtain ⟨⟨sig, id⟩, made, same⟩ := bind_eq_ok_iff.1 recoverable
    obtain ⟨rfl, -⟩ := Prod.mk.inj (Except.ok.inj same)
    exact ⟨sig, id, made, by simp⟩

section

variable {G : CurveGroup}

theorem ecdsaSecret_eq_ok_iff {refusal : String} {key : Bytes} {n : Nat} :
    ecdsaSecret G refusal key = .ok n ↔
      key.length = 32 ∧ Bytes.toNat key = n ∧ isScalar G n = true := by
  unfold ecdsaSecret
  simp only [bind_eq_ok_iff, key32_eq_ok_iff]
  constructor
  · rintro ⟨_, ⟨length, rfl⟩, h⟩
    split at h
    · rename_i scalar
      obtain rfl := Except.ok.inj h
      exact ⟨length, rfl, scalar⟩
    · cases h
  · rintro ⟨length, rfl, scalar⟩
    exact ⟨key, ⟨length, rfl⟩, if_pos scalar⟩

theorem compressed_eq_ok {P : G.Point} {b : Bytes} (h : compress? G P = some b) :
    compressed G P = .ok b := by
  rw [compressed, h]

theorem verifies_ofBytes (lawful : G.Lawful) {secret digest : Nat} {sig : Signature}
    (h : verifies G (publicPoint G secret) digest sig = true) {bytes : Bytes}
    (written : bytes = (sig.low G.order).toBytes) :
    let read := Signature.ofBytes bytes
    bytes.length = 64 ∧ isScalar G read.r = true ∧ isScalar G read.s = true ∧
      read.isHigh G.order = false ∧ verifies G (publicPoint G secret) digest read = true := by
  have low := verifies_low lawful h
  obtain ⟨scalar_r, scalar_s, -⟩ := (verifies_iff lawful).1 low
  have below {n : Nat} (scalar : isScalar G n = true) : n < Bytes.range32 :=
    lt_of_lt_of_le (isScalar_iff.1 scalar).2 G.order_le
  have read : Signature.ofBytes bytes = sig.low G.order := by
    rw [written, Signature.ofBytes_toBytes (below scalar_r) (below scalar_s)]
  simp only [read]
  exact ⟨by simp [written], scalar_r, scalar_s, Signature.isHigh_low, low⟩

end

namespace Secp256k1

variable {G : CurveGroup} {attempts : Nat} {nonce : Bytes → Bytes → Nat → Nat} {key digest : Bytes}

theorem exists_nonce_of_signature {sig : Signature} {id : RecoveryId}
    (h : signature G attempts nonce key digest = .ok (sig, id)) :
    ∃ n k, secret G key = .ok n ∧ digest.length = 32 ∧ isScalar G k = true ∧
      signWith? G k n (Bytes.toNat digest) = some (sig, id) := by
  obtain ⟨n, known, sized⟩ := bind_eq_ok_iff.1 h
  obtain ⟨_, same, made⟩ := bind_eq_ok_iff.1 sized
  obtain ⟨length, rfl⟩ := digest32_eq_ok_iff.1 same
  dsimp only at made
  split at made
  · rename_i found signed
    obtain rfl := Except.ok.inj made
    obtain ⟨k, scalar, half⟩ := exists_nonce_of_sign? signed
    exact ⟨n, k, known, length, scalar, half⟩
  · cases made

theorem verifies_of_signature (lawful : G.Lawful) {sig : Signature} {id : RecoveryId}
    (h : signature G attempts nonce key digest = .ok (sig, id)) :
    ∃ n, secret G key = .ok n ∧ isScalar G n = true ∧ digest.length = 32 ∧
      verifies G (publicPoint G n) (Bytes.toNat digest) sig = true := by
  obtain ⟨n, k, known, length, scalar, half⟩ := exists_nonce_of_signature h
  exact ⟨n, known, (ecdsaSecret_eq_ok_iff.1 known).2.2, length,
    verifies_of_signWith? lawful scalar half⟩

theorem verify_take (lawful : G.Lawful) {bytes : Bytes} {recovery : Bool}
    (h : (scheme G attempts nonce).signObligation key digest recovery = .ok bytes) :
    ∃ pk, publicKey G key = .ok pk ∧ verify G pk digest (bytes.take 64) = .ok true := by
  obtain ⟨sig, id, made, written⟩ := EcdsaScheme.take_signObligation h
  change signature G attempts nonce key digest = .ok (sig, id) at made
  obtain ⟨n, known, scalar, size, valid⟩ := verifies_of_signature lawful made
  obtain ⟨pk, point, compressed, -, read, ⟨odd, x, rfl⟩, lifted⟩ :=
    exists_compress? lawful scalar
  obtain ⟨length, scalar_r, scalar_s, low, valid⟩ := verifies_ofBytes lawful valid written
  refine ⟨pk, ?_, ?_⟩
  · exact bind_eq_ok_iff.2 ⟨n, known, compressed_eq_ok compressed⟩
  · have halves : readSignature G (bytes.take 64) = .ok (Signature.ofBytes (bytes.take 64)) := by
      simp [readSignature, (isScalar_iff.1 scalar_r).2, (isScalar_iff.1 scalar_s).2]
    have parsed : readPublicKey? G pk = some (publicPoint G n) := by
      simp only [readPublicKey?, read]
      exact lifted
    simp only [verify, signature64_of_length length, parsed, halves,
      digest32_eq_ok_iff.2 ⟨size, rfl⟩, bind, Except.bind, pure, Except.pure, low, valid]
    rfl

end Secp256k1

namespace Secp256r1

variable {G : CurveGroup} {attempts : Nat} {nonce : Bytes → Bytes → Nat → Nat} {key digest : Bytes}

theorem exists_nonce_of_signature {sig : Signature} {id : RecoveryId}
    (h : signature G attempts nonce key digest = .ok (sig, id)) :
    ∃ n k, secret G key = .ok n ∧ digest.length = 32 ∧ isScalar G k = true ∧
      signWith? G k n (Bytes.toNat digest) = some (sig, id) := by
  obtain ⟨n, known, sized⟩ := bind_eq_ok_iff.1 h
  obtain ⟨_, same, made⟩ := bind_eq_ok_iff.1 sized
  obtain ⟨length, rfl⟩ := digest32_eq_ok_iff.1 same
  split at made
  · rename_i found signed
    obtain rfl := Except.ok.inj made
    obtain ⟨k, first, half⟩ := Option.bind_eq_some_iff.1 signed
    exact ⟨n, k, known, length, isScalar_of_firstScalar? first, half⟩
  · cases made

theorem verifies_of_signature (lawful : G.Lawful) {sig : Signature} {id : RecoveryId}
    (h : signature G attempts nonce key digest = .ok (sig, id)) :
    ∃ n, secret G key = .ok n ∧ isScalar G n = true ∧ digest.length = 32 ∧
      verifies G (publicPoint G n) (Bytes.toNat digest) sig = true := by
  obtain ⟨n, k, known, length, scalar, half⟩ := exists_nonce_of_signature h
  exact ⟨n, known, (ecdsaSecret_eq_ok_iff.1 known).2.2, length,
    verifies_of_signWith? lawful scalar half⟩

theorem verify_take (lawful : G.Lawful) {bytes : Bytes} {recovery : Bool}
    (h : (scheme G attempts nonce).signObligation key digest recovery = .ok bytes) :
    ∃ pk, publicKey G key = .ok pk ∧ verify G pk digest (bytes.take 64) = .ok true := by
  obtain ⟨sig, id, made, written⟩ := EcdsaScheme.take_signObligation h
  change signature G attempts nonce key digest = .ok (sig, id) at made
  obtain ⟨n, known, scalar, size, valid⟩ := verifies_of_signature lawful made
  obtain ⟨pk, point, compressed, width, read, ⟨odd, x, rfl⟩, lifted⟩ :=
    exists_compress? lawful scalar
  obtain ⟨length, scalar_r, scalar_s, -, valid⟩ := verifies_ofBytes lawful valid written
  refine ⟨pk, ?_, ?_⟩
  · exact bind_eq_ok_iff.2 ⟨n, known, compressed_eq_ok compressed⟩
  · have halves : readSignature G (bytes.take 64) = .ok (Signature.ofBytes (bytes.take 64)) := by
      simp [readSignature, -List.length_take, length, scalar_r, scalar_s]
    have parsed : readPublicKey G pk = .ok (publicPoint G n) := by
      simp only [readPublicKey, width, read, lifted]
      rfl
    simp only [verify, signature64_of_length length, parsed, halves,
      digest32_eq_ok_iff.2 ⟨size, rfl⟩, bind, Except.bind, pure, Except.pure, valid]

end Secp256r1

end CustodySigner.Scheme
