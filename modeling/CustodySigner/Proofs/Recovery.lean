import CustodySigner.Proofs.Group.Standard
import CustodySigner.Proofs.Scheme.Recovery
import CustodySigner.Signing

set_option autoImplicit false
set_option relaxedAutoImplicit false

/-!
The recovery byte of an obligation. On the curves of ECDSA a signature with the byte is the signature
without it and one byte more, and that byte recovers the public key of the signer.
-/

namespace CustodySigner

/-- What is relied on to name a point by a signature and two bits. -/
structure CurveGroup.Recoverable (G : CurveGroup) : Prop where
  lawful : G.Lawful
  reducesOnce : G.ReducesOnce

theorem recoverable_secp256k1 : secp256k1.group.Recoverable :=
  ⟨lawful_secp256k1, lawful_secp256k1.reducesOnce (by decide)⟩

theorem recoverable_secp256r1 : secp256r1.group.Recoverable :=
  ⟨lawful_secp256r1, lawful_secp256r1.reducesOnce (by decide)⟩

namespace Suite

theorem exists_isOver {S : Suite} (k1 : S.secp256k1.Recoverable) (r1 : S.secp256r1.Recoverable)
    {curve : Curve} {E : Scheme.EcdsaScheme} (scheme : S.ecdsa? curve = some E) :
    ∃ G : CurveGroup, G.Recoverable ∧ E.IsOver G ∧ S.signObligation curve = E.signObligation ∧
      S.publicKey curve = E.publicKey := by
  cases curve with
  | secp256k1 =>
    obtain rfl := Option.some.inj scheme
    exact ⟨S.secp256k1, k1, Scheme.Secp256k1.isOver _ _ _, rfl, rfl⟩
  | secp256r1 =>
    obtain rfl := Option.some.inj scheme
    exact ⟨S.secp256r1, r1, Scheme.Secp256r1.isOver _ _ _, rfl, rfl⟩
  | ed25519 => cases scheme
  | bls12381 => cases scheme

/-- Whenever an obligation can be signed on a curve of ECDSA, with or without the recovery byte, it
can be signed either way: the bytes differ by one byte at the end, which is at most three; the second
half is positive and at most half the order; and from the first 64 bytes and that byte the public
key of the signer is recovered. -/
theorem recovery_byte_extends_signature (S : Suite) (k1 : S.secp256k1.Recoverable)
    (r1 : S.secp256r1.Recoverable) {curve : Curve} {E : Scheme.EcdsaScheme}
    (scheme : S.ecdsa? curve = some E) {key digest bytes : Bytes} {recovery : Bool}
    (signed : S.signObligation curve key digest recovery = .ok bytes) :
    ∃ plain v publicKey,
      S.signObligation curve key digest false = .ok plain ∧
      S.signObligation curve key digest true = .ok (plain ++ [v]) ∧
      plain.length = 64 ∧ v ≤ 3 ∧
      1 ≤ Bytes.toNat (plain.drop 32) ∧ Bytes.toNat (plain.drop 32) ≤ (E.order - 1) / 2 ∧
      S.publicKey curve key = .ok publicKey ∧
      E.recover digest ((plain ++ [v]).take 64) v = .ok publicKey := by
  obtain ⟨G, group, based, signs, publishes⟩ := exists_isOver k1 r1 scheme
  rw [signs] at signed ⊢
  rw [publishes]
  exact based.recovers group.lawful group.reducesOnce signed

/-- A key and a digest whose signature is found in high form, so that the parity is flipped. -/
def flippedKey : Bytes := List.replicate 32 7

def flippedDigest : Bytes := List.replicate 32 3

set_option maxRecDepth 10000 in
theorem recovery_byte_extends_signature_flipped :
    (standard.secp256r1Scheme.signature flippedKey flippedDigest).toOption.any
        (fun found => found.1.isHigh standard.secp256r1.order) = true ∧
      ∃ plain v publicKey,
        standard.signObligation .secp256r1 flippedKey flippedDigest false = .ok plain ∧
        standard.signObligation .secp256r1 flippedKey flippedDigest true = .ok (plain ++ [v]) ∧
        v ≤ 3 ∧ standard.publicKey .secp256r1 flippedKey = .ok publicKey ∧
        standard.secp256r1Scheme.recover flippedDigest ((plain ++ [v]).take 64) v =
          .ok publicKey := by
  have high : (standard.secp256r1Scheme.signature flippedKey flippedDigest).toOption.any
      (fun found => found.1.isHigh standard.secp256r1.order) = true := by decide +kernel
  obtain ⟨⟨sig, id⟩, found, -⟩ := (Option.any_eq_true _ _).1 high
  have signed : standard.signObligation .secp256r1 flippedKey flippedDigest false =
      .ok (sig.low standard.secp256r1.order).toBytes :=
    Scheme.EcdsaScheme.signObligation_plain (eq_ok_of_toOption found)
  have scheme : standard.ecdsa? .secp256r1 = some standard.secp256r1Scheme := rfl
  obtain ⟨plain, v, publicKey, without, full, -, small, -, -, published, recovered⟩ :=
    recovery_byte_extends_signature standard recoverable_secp256k1 recoverable_secp256r1 scheme
      signed
  exact ⟨high, plain, v, publicKey, without, full, small, published, recovered⟩

end Suite

end CustodySigner
