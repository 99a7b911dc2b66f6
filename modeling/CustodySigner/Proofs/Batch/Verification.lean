import CustodySigner.Proofs.Admission
import CustodySigner.Proofs.Batch.Postcondition
import CustodySigner.Proofs.Group.Standard
import CustodySigner.Proofs.SelfVerification

set_option autoImplicit false
set_option relaxedAutoImplicit false

/-!
What a batch commits verifies. Each signature, without its recovery byte, is valid for the digest of
its obligation under the public key that belongs to the store's key.
-/

namespace CustodySigner

namespace Obligation

/-- The primitives can be trusted with the key and the digest of the obligation. -/
def Trusted (S : Suite) (store : KeyStore) (o : Obligation) : Prop :=
  ∀ curve key digest, o.curve? = some curve → store.privateKey o.path curve = .ok key →
    Hex.decode o.message = .ok digest → S.Trusted curve key digest

/-- The signature of the obligation verifies under the public key of the store's key. -/
def Verifies (S : Suite) (store : KeyStore) (o : Obligation) : Prop :=
  ∃ curve key publicKey digest signature, o.curve? = some curve ∧
    store.privateKey o.path curve = .ok key ∧ S.publicKey curve key = .ok publicKey ∧
    Hex.decode o.message = .ok digest ∧ Hex.decode o.signed = .ok signature ∧
    S.verify curve publicKey digest (signature.take curve.signatureSize) = .ok true

end Obligation

namespace Obligations

/-- Each obligation of the map has the property. -/
def Each (property : Obligation → Prop) (m : Obligations) : Prop :=
  ∀ account list o, m.find? account = some list → o ∈ list → property o

end Obligations

namespace Batch

variable {S : Suite} {config : Config} {store : KeyStore}

theorem Signs.verifies {o o' : Obligation} (trusted : o.Trusted S store) (h : Signs S store o o') :
    o'.Verifies S store := by
  obtain ⟨curve, digest, key, signature, known, decoded, stored, made, rfl⟩ := h
  obtain ⟨-, read⟩ := decodeDigest_eq_ok_iff.1 decoded
  obtain ⟨publicKey, published, valid⟩ :=
    Suite.verify_take_of_sign (trusted curve key digest known stored read) made
  exact ⟨curve, key, publicKey, digest, signature, known, stored, published, read,
    Hex.decode_encode signature, valid⟩

theorem each_verifies_of_related {m signed : Obligations}
    (trusted : m.Each (Obligation.Trusted S store))
    (h : Dict.Related (fun _ => List.Forall₂ (Signs S store)) m signed) :
    signed.Each (Obligation.Verifies S store) := by
  intro account list' o' found' mem'
  obtain ⟨list, found, lists⟩ := h.exists_find?_left found'
  obtain ⟨o, mem, signs⟩ := exists_of_mem_right_forall₂ lists mem'
  exact signs.verifies (trusted account list o found mem)

theorem each_verifies {m signed : Obligations} (trusted : m.Each (Obligation.Trusted S store))
    (outcome : (signObligations S config store m).outcome = .ok signed) :
    (signObligations S config store m).held.Each (Obligation.Verifies S store) := by
  rw [outcome_signObligations] at outcome
  rw [held_signObligations_of_ok outcome]
  exact each_verifies_of_related trusted (signCopy_eq_ok_iff_related.1 outcome)

/-- Every signature that a batch commits verifies, on its own or as part of a transaction. -/
theorem committed_signatures_verify (S : Suite) (config : Config) (store : KeyStore) :
    (∀ m signed : Obligations, m.Each (Obligation.Trusted S store) →
      (signObligations S config store m).outcome = .ok signed →
      (signObligations S config store m).held.Each (Obligation.Verifies S store)) ∧
    (∀ t : Transfer, t.obligations.Each (Obligation.Trusted S store) →
      (signTransfer S config store t).outcome = .ok () →
      (signTransfer S config store t).held.obligations.Each (Obligation.Verifies S store)) ∧
    (∀ c : ContractCall, c.obligations.Each (Obligation.Trusted S store) →
      (signCall S config store c).outcome = .ok () →
      (signCall S config store c).held.obligations.Each (Obligation.Verifies S store)) := by
  refine ⟨fun m signed => each_verifies, fun t trusted outcome => ?_, fun c trusted outcome => ?_⟩
  · have checked : checkKeySet t = .ok () := by
      cases checked : checkKeySet t with
      | ok => rfl
      | error e => simp [signTransfer, checked] at outcome
    obtain ⟨same, held⟩ := signTransfer_of_checked S config store checked
    obtain ⟨signed, signedOutcome, -⟩ := map_eq_ok_iff.1 (same.symm.trans outcome)
    rw [held]
    exact each_verifies trusted signedOutcome
  · obtain ⟨same, held⟩ := signCall_eq S config store c
    obtain ⟨signed, signedOutcome, -⟩ := map_eq_ok_iff.1 (same.symm.trans outcome)
    rw [held]
    exact each_verifies trusted signedOutcome

/-- A store that has one key for all paths and curves. -/
def singleStore : KeyStore where
  find _ _ := .ok ⟨.ok (List.replicate 32 7)⟩

/-- The key of the store, shifted. -/
def shiftedSecret : Nat :=
  0x6effdaf81ba7e2f0a738480f4f31803738a8fb1a06b7007635405ffc524e4068

/-- The scheme with pairings replaced by what they decide for one key: a message has one valid
signature, which is the one that the key makes. -/
def onlyKey (P : PairingScheme) (secret : Nat) : PairingScheme :=
  { P with
    verify := fun key message signature =>
      .ok (decide (key = P.encode (P.multiply secret P.base) ∧
        signature = P.sign secret (key ++ message))) }

theorem selfVerifies_onlyKey (P : PairingScheme) (secret : Nat) (digest : Bytes) :
    (onlyKey P secret).SelfVerifies secret digest :=
  congrArg Except.ok (decide_eq_true ⟨rfl, rfl⟩)

def singleSuite : Suite :=
  { Suite.standard with bls12381 := onlyKey Suite.bls12381Standard shiftedSecret }

/-- An obligation to sign 32 bytes on a curve. -/
def obligationOn (curve : Curve) (recovery : Bool) : Obligation :=
  { Obligation.blank with
    curveCode := curve.code, recovery := recovery
    message := "5a5a5a5a5a5a5a5a5a5a5a5a5a5a5a5a5a5a5a5a5a5a5a5a5a5a5a5a5a5a5a5a" }

/-- One obligation on each curve. -/
def mixedBatch : Obligations where
  entries := [
    ("savings", [obligationOn .secp256k1 true, obligationOn .secp256r1 false]),
    ("trading", [obligationOn .ed25519 false, obligationOn .bls12381 true])]
  sorted := List.pairwise_pair.2 (show "savings" < "trading" by decide)

theorem trusted_obligationOn {S : Suite} {curve : Curve} (recovery : Bool)
    (known : Curve.ofCode? curve.code = some curve)
    (trusted : S.Trusted curve (List.replicate 32 7) (List.replicate 32 0x5a)) :
    (obligationOn curve recovery).Trusted S singleStore := by
  intro curve' key digest known' stored read
  have decoded :
      Hex.decode "5a5a5a5a5a5a5a5a5a5a5a5a5a5a5a5a5a5a5a5a5a5a5a5a5a5a5a5a5a5a5a5a" =
        .ok (List.replicate 32 0x5a) :=
    eq_ok_of_toOption (by decide)
  obtain rfl : curve = curve' := Option.some.inj (known.symm.trans known')
  obtain rfl : List.replicate 32 7 = key := Except.ok.inj stored
  obtain rfl : List.replicate 32 0x5a = digest := Except.ok.inj (decoded.symm.trans read)
  exact trusted

set_option maxRecDepth 10000 in
theorem singleSuite_trusted_ed25519 :
    singleSuite.Trusted .ed25519 (List.replicate 32 7) (List.replicate 32 0x5a) := by
  intro _
  change Suite.standard.ed25519.verify? _ _ _ = some true
  decide +kernel

set_option maxRecDepth 10000 in
theorem singleSuite_trusted_bls12381 :
    singleSuite.Trusted .bls12381 (List.replicate 32 7) (List.replicate 32 0x5a) := by
  have known : SyntheticKey.secret singleSuite.bls12381 (List.replicate 32 7)
      SyntheticKey.defaultHiddenPuzzle = .ok (Bytes.ofNat 32 shiftedSecret) :=
    eq_ok_of_toOption (by decide +kernel)
  intro synthetic shifted
  obtain rfl := Except.ok.inj (known.symm.trans shifted)
  rw [Bytes.toNat_ofNat_32 (by decide)]
  exact selfVerifies_onlyKey _ _ _

theorem exists_signs_obligationOn {curve : Curve} {recovery : Bool}
    (known : Curve.ofCode? curve.code = some curve)
    (signed : ∃ signature,
      singleSuite.sign curve (List.replicate 32 7) (List.replicate 32 0x5a) recovery =
        .ok signature) :
    ∃ o', Signs singleSuite singleStore (obligationOn curve recovery) o' := by
  obtain ⟨signature, signed⟩ := signed
  have decoded : decodeDigest
      "5a5a5a5a5a5a5a5a5a5a5a5a5a5a5a5a5a5a5a5a5a5a5a5a5a5a5a5a5a5a5a5a" =
        .ok (List.replicate 32 0x5a) := eq_ok_of_toOption (by decide)
  exact ⟨_, curve, _, _, signature, known, decoded, rfl, signed, rfl⟩

set_option maxRecDepth 10000 in
/-- The batch can be signed. Only the two ECDSA signatures are computed for that, since the other
schemes sign with every key that they admit. -/
theorem exists_outcome_mixedBatch :
    ∃ signed, (signObligations singleSuite .default singleStore mixedBatch).outcome =
      .ok signed := by
  obtain ⟨o₁, signs₁⟩ : ∃ o', Signs _ _ (obligationOn .secp256k1 true) o' :=
    exists_signs_obligationOn rfl (exists_eq_ok_of_toBool (by decide +kernel))
  obtain ⟨o₂, signs₂⟩ : ∃ o', Signs _ _ (obligationOn .secp256r1 false) o' :=
    exists_signs_obligationOn rfl (exists_eq_ok_of_toBool (by decide +kernel))
  obtain ⟨o₃, signs₃⟩ : ∃ o', Signs _ _ (obligationOn .ed25519 false) o' := by
    refine exists_signs_obligationOn rfl ?_
    rw [Suite.sign_eq_signObligation]
    exact ⟨_, Scheme.Ed25519.signObligation_eq_ok_iff.2 ⟨rfl, rfl, by decide, rfl⟩⟩
  obtain ⟨o₄, signs₄⟩ : ∃ o', Signs _ _ (obligationOn .bls12381 true) o' := by
    refine exists_signs_obligationOn rfl ?_
    rw [Suite.sign_eq_signObligation]
    exact SyntheticKey.exists_sign_iff.2 ⟨by decide, by decide +kernel, by decide +kernel⟩
  refine ⟨⟨[("savings", [o₁, o₂]), ("trading", [o₃, o₄])],
    List.pairwise_pair.2 (show "savings" < "trading" by decide)⟩, ?_⟩
  rw [outcome_signObligations, signCopy_eq_ok_iff_related]
  exact .cons ⟨rfl, .cons signs₁ (.cons signs₂ .nil)⟩
    (.cons ⟨rfl, .cons signs₃ (.cons signs₄ .nil)⟩ .nil)

theorem committed_signatures_verify_mixedBatch :
    ∃ signed, (signObligations singleSuite .default singleStore mixedBatch).outcome = .ok signed ∧
      (signObligations singleSuite .default singleStore mixedBatch).held.Each
        (Obligation.Verifies singleSuite singleStore) := by
  obtain ⟨signed, outcome⟩ := exists_outcome_mixedBatch
  have trusted : mixedBatch.Each (Obligation.Trusted singleSuite singleStore) := by
    intro account list o found mem
    rcases List.mem_pair.1 (Dict.find?_eq_some_iff.1 found) with same | same
    · obtain ⟨rfl, rfl⟩ := Prod.mk.inj same
      rcases List.mem_pair.1 mem with rfl | rfl
      · exact trusted_obligationOn true rfl lawful_secp256k1
      · exact trusted_obligationOn false rfl lawful_secp256r1
    · obtain ⟨rfl, rfl⟩ := Prod.mk.inj same
      rcases List.mem_pair.1 mem with rfl | rfl
      · exact trusted_obligationOn false rfl singleSuite_trusted_ed25519
      · exact trusted_obligationOn true rfl singleSuite_trusted_bls12381
  exact ⟨signed, outcome,
    (committed_signatures_verify singleSuite .default singleStore).1 _ _ trusted outcome⟩

end Batch

end CustodySigner
