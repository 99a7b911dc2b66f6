import CustodySigner.Batch.Signer
import CustodySigner.Proofs.Hex
import CustodySigner.Proofs.Signing

set_option autoImplicit false
set_option relaxedAutoImplicit false

/-!
One obligation on its own. Signing it replaces the signature by the one that the policy makes with
the store's key, and nothing else; the signature that was there before has no influence.
-/

namespace CustodySigner

namespace Obligation

/-- The obligations differ at most in their signatures. -/
def AgreesUpToSignature (o o' : Obligation) : Prop :=
  o' = { o with signed := o'.signed }

/-- The obligation carries a signature in lowercase hexadecimal, as long as its curve and its
recovery flag ask for. -/
def CarriesSignature (o : Obligation) : Prop :=
  ∃ curve, o.curve? = some curve ∧ o.signed.length = 2 * curve.encodedSize o.recovery ∧
    ∀ c ∈ o.signed.toList, Hex.isDigit c = true

theorem CarriesSignature.isSigned {o : Obligation} (h : o.CarriesSignature) :
    o.isSigned = true := by
  obtain ⟨curve, -, length, -⟩ := h
  have positive := curve.encodedSize_pos o.recovery
  have nonempty : o.signed ≠ "" := by
    intro empty
    rw [empty] at length
    simp only [String.length_empty] at length
    omega
  simpa [Obligation.isSigned] using nonempty

end Obligation

namespace Batch

variable (S : Suite) (store : KeyStore)

/-- The second obligation is the first with the signature that the policy makes of its digest with
the store's key for its path and its curve. -/
def Signs (o o' : Obligation) : Prop :=
  ∃ curve digest key signature, o.curve? = some curve ∧ decodeDigest o.message = .ok digest ∧
    store.privateKey o.path curve = .ok key ∧ S.sign curve key digest o.recovery = .ok signature ∧
    o' = { o with signed := Hex.encode signature }

variable {S store}

theorem Signs.agrees {o o' : Obligation} (h : Signs S store o o') : o.AgreesUpToSignature o' := by
  obtain ⟨_, _, _, _, -, -, -, -, rfl⟩ := h
  rfl

theorem Signs.carriesSignature {o o' : Obligation} (h : Signs S store o o') :
    o'.CarriesSignature := by
  obtain ⟨curve, _, _, signature, known, -, -, signed, rfl⟩ := h
  refine ⟨curve, known, ?_, fun c mem => Hex.isDigit_of_mem_encode mem⟩
  rw [Hex.length_encode, (Suite.sign_eq_ok_iff.1 signed).2]

theorem signatureOf_eq_ok_iff {o : Obligation} {text : String} :
    signatureOf S store o = .ok text ↔ ∃ curve digest key signature,
      o.curve? = some curve ∧ decodeDigest o.message = .ok digest ∧
      store.privateKey o.path curve = .ok key ∧
      S.sign curve key digest o.recovery = .ok signature ∧ text = Hex.encode signature := by
  unfold signatureOf
  constructor
  · intro h
    obtain ⟨digest, decoded, h⟩ := bind_eq_ok_iff.1 h
    obtain ⟨curve, known, h⟩ := bind_eq_ok_iff.1 h
    obtain ⟨key, stored, h⟩ := bind_eq_ok_iff.1 h
    obtain ⟨signature, signed, h⟩ := bind_eq_ok_iff.1 h
    have known := Curve.ofCode_eq_ok_iff.1 known
    exact ⟨curve, digest, key, signature, known, decoded, stored,
      (Suite.signByCode_eq_ok_iff known).1 signed, (Except.ok.inj h).symm⟩
  · rintro ⟨curve, digest, key, signature, known, decoded, stored, signed, rfl⟩
    refine bind_eq_ok_iff.2 ⟨digest, decoded, ?_⟩
    refine bind_eq_ok_iff.2 ⟨curve, Curve.ofCode_eq_ok_iff.2 known, ?_⟩
    refine bind_eq_ok_iff.2 ⟨key, stored, ?_⟩
    exact bind_eq_ok_iff.2 ⟨signature, (Suite.signByCode_eq_ok_iff known).2 signed, rfl⟩

theorem signAlone_eq_ok_iff {account : String} {o o' : Obligation} :
    signAlone S store account o = .ok o' ↔ Signs S store o o' := by
  have step : signAlone S store account o = .ok o' ↔
      ∃ text, signatureOf S store o = .ok text ∧ o' = { o with signed := text } := by
    unfold signAlone
    cases signatureOf S store o <;> simp [eq_comm]
  rw [step]
  constructor
  · rintro ⟨text, h, rfl⟩
    obtain ⟨curve, digest, key, signature, known, decoded, stored, signed, rfl⟩ :=
      signatureOf_eq_ok_iff.1 h
    exact ⟨curve, digest, key, signature, known, decoded, stored, signed, rfl⟩
  · rintro ⟨curve, digest, key, signature, known, decoded, stored, signed, rfl⟩
    exact ⟨_, signatureOf_eq_ok_iff.2
      ⟨curve, digest, key, signature, known, decoded, stored, signed, rfl⟩, rfl⟩

theorem signAlone_eq_error_iff {account : String} {o : Obligation} {e : SignerError} :
    signAlone S store account o = .error e ↔
      ∃ cause, signatureOf S store o = .error cause ∧ e = cause.withDetails (place account o) := by
  unfold signAlone
  cases signatureOf S store o <;> simp [eq_comm]

theorem signAlone_congr {account : String} {o o' : Obligation} (h : o.AgreesUpToSignature o') :
    signAlone S store account o' = signAlone S store account o := by
  rw [h]
  rfl

end Batch

end CustodySigner
