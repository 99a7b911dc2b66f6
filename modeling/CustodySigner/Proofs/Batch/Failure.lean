import CustodySigner.Proofs.Batch.Postcondition

set_option autoImplicit false
set_option relaxedAutoImplicit false

/-!
The failures of a sequential run. It fails exactly when one of its obligations fails alone, with the
failure of the first that does, whatever the store answers after that one.
-/

namespace CustodySigner

/-- The stores give the same answer for the key of the obligation. -/
def Obligation.AnswersAlike (o : Obligation) (store store' : KeyStore) : Prop :=
  ∀ curve, o.curve? = some curve →
    store'.privateKey o.path curve = store.privateKey o.path curve

namespace Obligations

/-- A batch of one obligation. -/
def single (account : String) (o : Obligation) : Obligations :=
  ⟨[(account, [o])], List.pairwise_singleton _ _⟩

end Obligations

namespace Batch

variable {S : Suite} {config : Config} {store store' : KeyStore}

/-- Signing the obligation alone fails, and this is the failure: it says the account and the input
where the obligation stands. -/
def FailsAlone (S : Suite) (store : KeyStore) (item : String × Obligation) (e : SignerError) :
    Prop :=
  ∃ cause, signatureOf S store item.2 = .error cause ∧
    e = { cause with
      details :=
        some ("account=" ++ item.1 ++ " input_index=" ++ toString item.2.inputIndex.toNat) }

/-- The obligation after `before` is the first in the order that fails alone. -/
def FirstFailure (S : Suite) (store : KeyStore) (order : Order)
    (before : List (String × Obligation)) (item : String × Obligation) (e : SignerError) : Prop :=
  before ++ [item] <+: items order ∧ (∀ other ∈ before, ∃ o', Signs S store other.2 o') ∧
    FailsAlone S store item e

theorem failsAlone_iff {item : String × Obligation} {e : SignerError} :
    FailsAlone S store item e ↔ signAlone S store item.1 item.2 = .error e :=
  signAlone_eq_error_iff.symm

theorem signInOrder_eq_error_iff_firstFailure {order : Order} {e : SignerError} :
    signInOrder S store order = .error e ↔
      ∃ before item, FirstFailure S store order before item e := by
  rw [signInOrder_eq_error_iff]
  constructor
  · rintro ⟨before, item, after, split, good, bad⟩
    refine ⟨before, item, ⟨after, by simp [split]⟩, ?_, failsAlone_iff.2 bad⟩
    intro other mem
    obtain ⟨o', signed⟩ := good other mem
    exact ⟨o', signAlone_eq_ok_iff.1 signed⟩
  · rintro ⟨before, item, ⟨after, split⟩, good, bad⟩
    refine ⟨before, item, after, by simp [← split], ?_, failsAlone_iff.1 bad⟩
    intro other mem
    obtain ⟨o', signed⟩ := good other mem
    exact ⟨o', signAlone_eq_ok_iff.2 signed⟩

theorem exists_signInOrder_eq_error_iff {order : Order} :
    (∃ e, signInOrder S store order = .error e) ↔
      ∃ item ∈ items order, ∃ e, FailsAlone S store item e := by
  unfold signInOrder items
  simp only [exists_mapM_eq_error_iff, map_eq_error_iff, failsAlone_iff, List.mem_flatMap,
    List.mem_map]
  constructor
  · rintro ⟨entry, mem, o, mem', e, bad⟩
    exact ⟨(entry.1, o), ⟨entry, mem, o, mem', rfl⟩, e, bad⟩
  · rintro ⟨_, ⟨entry, mem, o, mem', rfl⟩, e, bad⟩
    exact ⟨entry, mem, o, mem', e, bad⟩

theorem mem_items_iff {m : Obligations} {order : Order} (perm : order.Perm m.entries)
    {item : String × Obligation} :
    item ∈ items order ↔ ∃ list, m.find? item.1 = some list ∧ item.2 ∈ list := by
  simp only [items, List.mem_flatMap, List.mem_map, Dict.find?_eq_some_iff, perm.mem_iff]
  constructor
  · rintro ⟨⟨account, list⟩, mem, o, mem', rfl⟩
    exact ⟨list, mem, mem'⟩
  · rintro ⟨list, mem, mem'⟩
    exact ⟨_, mem, item.2, mem', rfl⟩

theorem signatureOf_congr_store {o : Obligation} (alike : o.AnswersAlike store store') :
    signatureOf S store' o = signatureOf S store o := by
  unfold signatureOf
  cases known : Curve.ofCode o.curveCode with
  | error e => rfl
  | ok curve =>
    have same := alike curve (Curve.ofCode_eq_ok_iff.1 known)
    simp only [bind, Except.bind, same]

theorem signAlone_congr_store (account : String) {o : Obligation}
    (alike : o.AnswersAlike store store') :
    signAlone S store' account o = signAlone S store account o := by
  unfold signAlone
  rw [signatureOf_congr_store alike]

theorem FirstFailure.congr_store {order : Order} {before : List (String × Obligation)}
    {item : String × Obligation} {e : SignerError} (h : FirstFailure S store order before item e)
    (alike : ∀ other ∈ before ++ [item], other.2.AnswersAlike store store') :
    FirstFailure S store' order before item e := by
  obtain ⟨split, good, bad⟩ := h
  refine ⟨split, fun other mem => ?_, ?_⟩
  · obtain ⟨o', signed⟩ := good other mem
    have same : signAlone S store' other.1 other.2 = signAlone S store other.1 other.2 :=
      signAlone_congr_store _ (alike other (List.mem_append_left _ mem))
    exact ⟨o', signAlone_eq_ok_iff.1 (same.trans (signAlone_eq_ok_iff.2 signed))⟩
  · have same : signAlone S store' item.1 item.2 = signAlone S store item.1 item.2 :=
      signAlone_congr_store _ (alike item (List.mem_append_right _ List.mem_cons_self))
    exact failsAlone_iff.2 (same.trans (failsAlone_iff.1 bad))

theorem signObligations_eq_error_iff {m : Obligations} {e : SignerError} :
    (signObligations S config store m).outcome = .error e ↔
      signInOrder S store m.entries = .error e := by
  rw [outcome_signObligations, signCopy_eq_error_iff]

theorem exists_signObligations_eq_error_iff {m : Obligations} :
    (∃ e, (signObligations S config store m).outcome = .error e) ↔
      ∃ account list o, m.find? account = some list ∧ o ∈ list ∧
        ∃ e, FailsAlone S store (account, o) e := by
  simp only [signObligations_eq_error_iff, exists_signInOrder_eq_error_iff,
    mem_items_iff (.refl m.entries)]
  constructor
  · rintro ⟨⟨account, o⟩, ⟨list, found, mem⟩, e, bad⟩
    exact ⟨account, list, o, found, mem, e, bad⟩
  · rintro ⟨account, list, o, found, mem, e, bad⟩
    exact ⟨(account, o), ⟨list, found, mem⟩, e, bad⟩

theorem signTransfer_eq_error_iff {t : Transfer} (checked : checkKeySet t = .ok ())
    {e : SignerError} :
    (signTransfer S config store t).outcome = .error e ↔
      signInOrder S store t.obligations.entries = .error e := by
  rw [(signTransfer_of_checked _ _ _ checked).1, map_eq_error_iff, signObligations_eq_error_iff]

theorem signCall_eq_error_iff {c : ContractCall} {e : SignerError} :
    (signCall S config store c).outcome = .error e ↔
      signInOrder S store c.obligations.entries = .error e := by
  rw [(signCall_eq _ _ _ c).1, map_eq_error_iff, signObligations_eq_error_iff]

theorem held_signTransfer_of_error {t : Transfer} {e : SignerError}
    (h : (signTransfer S config store t).outcome = .error e) :
    (signTransfer S config store t).held = t := by
  cases checked : checkKeySet t with
  | error e => simp only [signTransfer, checked]
  | ok =>
    have bad := (signTransfer_eq_error_iff checked).1 h
    rw [(signTransfer_of_checked _ _ _ checked).2,
      held_signObligations_of_error (signCopy_eq_error_iff.2 bad)]

theorem signObligations_single_eq_error_iff {account : String} {o : Obligation} {e : SignerError} :
    (signObligations S config store (.single account o)).outcome = .error e ↔
      FailsAlone S store (account, o) e := by
  rw [signObligations_eq_error_iff, failsAlone_iff]
  simp only [signInOrder, Obligations.single, List.mapM_cons, List.mapM_nil]
  cases signAlone S store account o <;> simp [bind, Except.bind, Except.map, pure, Except.pure]

def goodObligation : Obligation :=
  { Obligation.blank with curveCode := Curve.ed25519.code, message := "5a", path := "m/0" }

/-- The message is no hexadecimal. -/
def badObligation : Obligation :=
  { goodObligation with message := "5g", inputIndex := 1 }

/-- Whether it can be signed depends on the store. -/
def distantObligation : Obligation :=
  { goodObligation with curveCode := Curve.secp256r1.code }

def brokenBatch : Obligations where
  entries := [
    ("savings", [goodObligation, badObligation]), ("trading", [distantObligation])]
  sorted := List.pairwise_pair.2 (show "savings" < "trading" by decide)

def brokenTransfer : Transfer :=
  { Transfer.blank with account := "trading", required := 3, obligations := brokenBatch }

/-- The sample store without the keys of one curve. -/
def lockedStore : KeyStore where
  find path curve :=
    if curve = .secp256r1 then .error ⟨.timeout, "locked"⟩ else sampleStore.find path curve

end Batch

end CustodySigner
