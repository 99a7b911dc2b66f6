import CustodySigner.Proofs.Batch.Schedule
import CustodySigner.Proofs.Batch.Verification

set_option autoImplicit false
set_option relaxedAutoImplicit false

/-!
What batches and transactions have become when they are signed, in whatever order their obligations are
taken. Nothing has changed but the signatures, these are the policy's, they do not depend on the ones
that were there before, and they verify.
-/

namespace CustodySigner.Batch.Schedule

variable {S : Suite} {config config' : Config} {store : KeyStore} {m m' held held' signed : Obligations}
  {trace trace' : List Event}

theorem Finishes.signedVersion (h : Finishes S config store m trace held (.ok signed)) :
    held = signed ∧ SignedVersion S store m signed :=
  ⟨h.related.1, signedVersion_of_related h.related.2⟩

/-- Earlier signatures have no influence on what a schedule commits. -/
theorem Finishes.eq_of_agree {answer : Except SignerError Obligations}
    (agree : Dict.Related (fun _ => List.Forall₂ Obligation.AgreesUpToSignature) m m')
    (h : Finishes S config store m trace held (.ok signed))
    (h' : Finishes S config' store m' trace' held' answer) :
    held' = signed ∧ answer = .ok signed := by
  have outcome : (signObligations S config' store m').outcome = .ok signed := by
    rw [← h.outcome config, outcome_signObligations, outcome_signObligations]
    exact outcome_signCopy_congr config' agree
  obtain ⟨signed', rfl⟩ := (h'.isOk_iff config').2 ⟨signed, outcome⟩
  obtain rfl := Except.ok.inj ((h'.outcome config').symm.trans outcome)
  exact ⟨h'.related.1, rfl⟩

theorem Finishes.eq_of_signed {answer : Except SignerError Obligations}
    (h : Finishes S config store m trace held (.ok signed))
    (h' : Finishes S config' store signed trace' held' answer) :
    held' = signed ∧ answer = .ok signed :=
  h.eq_of_agree (agreesUpToSignature_of_related h.related.2) h'

theorem Finishes.each_verifies (trusted : m.Each (Obligation.Trusted S store))
    (h : Finishes S config store m trace held (.ok signed)) :
    held.Each (Obligation.Verifies S store) := by
  obtain ⟨rfl, related⟩ := h.related
  exact each_verifies_of_related trusted related

section Transactions

variable {σ : Type} {check : Except SignerError Unit} {replace : Obligations → σ} {passed : σ}

theorem Settles.exists_finishes (h : Settles S config store check m replace trace passed (.ok ())) :
    check = .ok () ∧ ∃ signed, passed = replace signed ∧
      Finishes S config store m trace signed (.ok signed) := by
  generalize settled : Except.ok () = answer at h
  cases h with
  | refused => cases settled
  | scheduled checked finishes =>
    obtain ⟨signed, rfl, -⟩ := map_eq_ok_iff.1 settled.symm
    obtain ⟨rfl, -⟩ := finishes.related
    exact ⟨checked, _, rfl, finishes⟩

theorem SettlesTransfer.replaces_signatures_only {t held : Transfer}
    (h : SettlesTransfer S config store t trace held (.ok ())) :
    checkKeySet t = .ok () ∧ held = { t with obligations := held.obligations } ∧
      SignedVersion S store t.obligations held.obligations := by
  obtain ⟨checked, signed, rfl, finishes⟩ := h.exists_finishes
  exact ⟨checked, rfl, finishes.signedVersion.2⟩

theorem SettlesCall.replaces_signatures_only {c held : ContractCall}
    (h : SettlesCall S config store c trace held (.ok ())) :
    held = { c with obligations := held.obligations } ∧
      SignedVersion S store c.obligations held.obligations := by
  obtain ⟨-, signed, rfl, finishes⟩ := h.exists_finishes
  exact ⟨rfl, finishes.signedVersion.2⟩

theorem SettlesTransfer.each_verifies {t held : Transfer}
    (trusted : t.obligations.Each (Obligation.Trusted S store))
    (h : SettlesTransfer S config store t trace held (.ok ())) :
    held.obligations.Each (Obligation.Verifies S store) := by
  obtain ⟨-, signed, rfl, finishes⟩ := h.exists_finishes
  exact finishes.each_verifies trusted

theorem SettlesCall.each_verifies {c held : ContractCall}
    (trusted : c.obligations.Each (Obligation.Trusted S store))
    (h : SettlesCall S config store c trace held (.ok ())) :
    held.obligations.Each (Obligation.Verifies S store) := by
  obtain ⟨-, signed, rfl, finishes⟩ := h.exists_finishes
  exact finishes.each_verifies trusted

end Transactions

end CustodySigner.Batch.Schedule
