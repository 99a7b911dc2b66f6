import CustodySigner.Keys.MasterKey
import CustodySigner.Proofs.Batch.Alone
import CustodySigner.Proofs.Batch.Sequential

set_option autoImplicit false
set_option relaxedAutoImplicit false

/-!
What a batch that succeeds has done. The map that the caller now holds differs from the one that was
passed in by the signatures alone, each of them the one that the policy makes; a transaction differs
by its obligations alone.
-/

namespace CustodySigner

namespace Obligations

theorem count_eq_of_related {R : String → List Obligation → List Obligation → Prop}
    {m m' : Obligations} (lengths : ∀ {account list list'}, R account list list' →
      list'.length = list.length) (h : Dict.Related R m m') : m'.count = m.count := by
  have entrywise {l l' : List (String × List Obligation)}
      (h : List.Forall₂ (fun entry entry' => entry'.1 = entry.1 ∧
        R entry.1 entry.2 entry'.2) l l') :
      ((l'.map (·.2)).flatten).length = ((l.map (·.2)).flatten).length := by
    induction h with
    | nil => rfl
    | cons head _ ih =>
      simp only [List.map_cons, List.flatten_cons, List.length_append, lengths head.2, ih]
  exact entrywise h

theorem isFullySigned_iff {m : Obligations} :
    m.isFullySigned = true ↔
      ∀ account list, m.find? account = some list → ∀ o ∈ list, o.isSigned = true := by
  simp only [isFullySigned, List.all_flatten, List.all_eq_true, Dict.values, List.mem_map]
  constructor
  · intro h account list found o mem
    exact h list ⟨_, Dict.find?_eq_some_iff.1 found, rfl⟩ o mem
  · rintro h list ⟨⟨account, list⟩, entry, rfl⟩ o mem
    exact h account list (Dict.find?_eq_some_iff.2 entry) o mem

end Obligations

namespace Batch

/-- The map `signed` is `m` with each signature replaced by the one that the policy makes. -/
structure SignedVersion (S : Suite) (store : KeyStore) (m signed : Obligations) : Prop where
  keys : signed.keys = m.keys
  carries : ∀ account list, m.find? account = some list →
    ∃ list', signed.find? account = some list' ∧
      List.Forall₂ (fun o o' => Signs S store o o' ∧ o'.CarriesSignature) list list'
  count : signed.count = m.count
  full : signed.isFullySigned = true

variable {S : Suite} {config : Config} {store : KeyStore}

@[simp] theorem outcome_signObligations (m : Obligations) :
    (signObligations S config store m).outcome = (signCopy S config store m).outcome := by
  simp only [signObligations]
  cases (signCopy S config store m).outcome <;> rfl

theorem held_signObligations_of_ok {m signed : Obligations}
    (h : (signCopy S config store m).outcome = .ok signed) :
    (signObligations S config store m).held = signed := by
  simp only [signObligations, h]

theorem held_signObligations_of_error {m : Obligations} {e : SignerError}
    (h : (signCopy S config store m).outcome = .error e) :
    (signObligations S config store m).held = m := by
  simp only [signObligations, h]

/-- A batch succeeds with a map if and only if the map is the signed one, entry by entry. -/
theorem signCopy_eq_ok_iff_related {m signed : Obligations} :
    (signCopy S config store m).outcome = .ok signed ↔
      Dict.Related (fun _ => List.Forall₂ (Signs S store)) m signed := by
  rw [signCopy_eq_ok_iff, signInOrder_eq_ok_iff]
  simp only [signAlone_eq_ok_iff]
  rfl

theorem outcome_signCopy_congr {m m' : Obligations} (again : Config)
    (h : Dict.Related (fun _ => List.Forall₂ Obligation.AgreesUpToSignature) m m') :
    (signCopy S again store m').outcome = (signCopy S config store m).outcome := by
  have same : signInOrder S store m'.entries = signInOrder S store m.entries := by
    refine (mapM_congr_of_forall₂ (h.imp ?_)).symm
    rintro entry entry' ⟨account, lists⟩
    have signed : entry'.2.mapM (signAlone S store entry.1) =
        entry.2.mapM (signAlone S store entry.1) :=
      (mapM_congr_of_forall₂ (lists.imp fun o o' agrees => (signAlone_congr agrees).symm)).symm
    rw [account, signed]
  cases outcome : (signCopy S config store m).outcome with
  | ok signed => rw [signCopy_eq_ok_iff, same, ← signCopy_eq_ok_iff, outcome]
  | error e => rw [signCopy_eq_error_iff, same, ← signCopy_eq_error_iff, outcome]

theorem signedVersion_of_related {m signed : Obligations}
    (h : Dict.Related (fun _ => List.Forall₂ (Signs S store)) m signed) :
    SignedVersion S store m signed where
  keys := h.keys_eq
  carries account list found := by
    obtain ⟨list', found', lists⟩ := h.exists_find? found
    exact ⟨list', found', lists.imp fun o o' signs => ⟨signs, signs.carriesSignature⟩⟩
  count := Obligations.count_eq_of_related (fun lists => lists.length_eq.symm) h
  full := by
    refine Obligations.isFullySigned_iff.2 fun account list' found' o' mem => ?_
    obtain ⟨list, -, lists⟩ := h.exists_find?_left found'
    obtain ⟨o, -, signs⟩ := exists_of_mem_right_forall₂ lists mem
    exact signs.carriesSignature.isSigned

theorem agreesUpToSignature_of_related {m signed : Obligations}
    (h : Dict.Related (fun _ => List.Forall₂ (Signs S store)) m signed) :
    Dict.Related (fun _ => List.Forall₂ Obligation.AgreesUpToSignature) m signed :=
  h.imp fun _ _ entries => ⟨entries.1, entries.2.imp fun _ _ signs => signs.agrees⟩

theorem signTransfer_of_checked (S : Suite) (config : Config) (store : KeyStore) {t : Transfer}
    (checked : checkKeySet t = .ok ()) :
    (signTransfer S config store t).outcome =
        (signObligations S config store t.obligations).outcome.map (fun _ => ()) ∧
      (signTransfer S config store t).held =
        { t with obligations := (signObligations S config store t.obligations).held } := by
  rw [outcome_signObligations]
  simp only [signTransfer, checked]
  cases outcome : (signCopy S config store t.obligations).outcome with
  | ok signed => exact ⟨rfl, by rw [held_signObligations_of_ok outcome]⟩
  | error e => exact ⟨rfl, by rw [held_signObligations_of_error outcome]⟩

theorem signCall_eq (S : Suite) (config : Config) (store : KeyStore) (c : ContractCall) :
    (signCall S config store c).outcome =
        (signObligations S config store c.obligations).outcome.map (fun _ => ()) ∧
      (signCall S config store c).held =
        { c with obligations := (signObligations S config store c.obligations).held } := by
  simp only [signCall]
  cases (signObligations S config store c.obligations).outcome <;> exact ⟨rfl, rfl⟩

/-- A batch that succeeds leaves accounts, lists and obligations as they were, except that each
obligation carries its own signature; it does so whatever signatures were there before. A
transaction keeps everything but its obligations. -/
theorem signing_replaces_signatures_only (S : Suite) (config : Config) (store : KeyStore) :
    (∀ m signed : Obligations, (signObligations S config store m).outcome = .ok signed →
      (signObligations S config store m).held = signed ∧
      signed.keys = m.keys ∧
      (∀ account list, m.find? account = some list →
        ∃ list', signed.find? account = some list' ∧
          List.Forall₂ (fun o o' => Signs S store o o' ∧ o'.CarriesSignature) list list') ∧
      signed.count = m.count ∧
      signed.isFullySigned = true ∧
      ∀ again, (signObligations S again store signed).outcome = .ok signed) ∧
    (∀ m m' : Obligations,
      Dict.Related (fun _ => List.Forall₂ Obligation.AgreesUpToSignature) m m' →
      (signObligations S config store m').outcome = (signObligations S config store m).outcome) ∧
    (∀ t : Transfer, checkKeySet t = .ok () →
      (signTransfer S config store t).outcome =
        (signObligations S config store t.obligations).outcome.map (fun _ => ()) ∧
      (signTransfer S config store t).held =
        { t with obligations := (signObligations S config store t.obligations).held }) ∧
    (∀ c : ContractCall,
      (signCall S config store c).outcome =
        (signObligations S config store c.obligations).outcome.map (fun _ => ()) ∧
      (signCall S config store c).held =
        { c with obligations := (signObligations S config store c.obligations).held }) := by
  refine ⟨fun m signed outcome => ?_, fun m m' agree => ?_, fun t =>
    signTransfer_of_checked S config store, signCall_eq S config store⟩
  · rw [outcome_signObligations] at outcome
    have related := signCopy_eq_ok_iff_related.1 outcome
    obtain ⟨keys, carries, count, full⟩ := signedVersion_of_related related
    refine ⟨held_signObligations_of_ok outcome, keys, carries, count, full, fun again => ?_⟩
    rw [outcome_signObligations, ← outcome]
    exact outcome_signCopy_congr again (agreesUpToSignature_of_related related)
  · rw [outcome_signObligations, outcome_signObligations]
    exact outcome_signCopy_congr config agree

/-- The keys of a seed of 32 equal bytes. -/
def sampleStore : KeyStore :=
  MasterKey.store .standard ⟨List.replicate 32 7, by decide, by decide⟩

/-- Three obligations of two accounts, one of which may have a signature already. -/
def sampleBatch (earlier : String) : Obligations where
  entries := [
    ("savings", [
      { Obligation.blank with curveCode := Curve.ed25519.code, message := "5a", path := "m/0" }]),
    ("trading", [
      { Obligation.blank with
        curveCode := Curve.ed25519.code, message := "5a5B", path := "m/44'/1", inputIndex := 1
        signed := earlier },
      { Obligation.blank with
        curveCode := Curve.secp256r1.code, recovery := true, path := "m", inputIndex := 2
        message := "5a5a5a5a5a5a5a5a5a5a5a5a5a5a5a5a5a5a5a5a5a5a5a5a5a5a5a5a5a5a5a5a" }])]
  sorted := List.pairwise_pair.2 (show "savings" < "trading" by decide)

def sampleTransfer : Transfer :=
  { Transfer.blank with account := "savings", required := 3, obligations := sampleBatch "00" }

set_option maxRecDepth 10000 in
theorem exists_outcome_sampleBatch :
    ∃ signed, (signObligations .standard .default sampleStore (sampleBatch "00")).outcome =
      .ok signed := by
  refine exists_eq_ok_of_toBool ?_
  decide +kernel

theorem signing_replaces_signatures_only_sampleBatch :
    ∃ signed, (signObligations .standard .default sampleStore (sampleBatch "00")).outcome =
        .ok signed ∧
      signed.keys = ["savings", "trading"] ∧ signed.count = 3 ∧ signed.isFullySigned = true ∧
      (signObligations .standard .default sampleStore (sampleBatch "")).outcome = .ok signed ∧
      checkKeySet sampleTransfer = .ok () ∧
      (signTransfer .standard .default sampleStore sampleTransfer).held =
        { sampleTransfer with obligations := signed } := by
  obtain ⟨signed, outcome⟩ := exists_outcome_sampleBatch
  obtain ⟨committed, independent, transfers, -⟩ :=
    signing_replaces_signatures_only .standard .default sampleStore
  obtain ⟨held, keys, -, count, full, -⟩ := committed _ signed outcome
  have checked : checkKeySet sampleTransfer = .ok () := by decide
  have agree : Dict.Related (fun _ => List.Forall₂ Obligation.AgreesUpToSignature)
      (sampleBatch "00") (sampleBatch "") :=
    .cons ⟨rfl, .cons rfl .nil⟩ (.cons ⟨rfl, .cons rfl (.cons rfl .nil)⟩ .nil)
  refine ⟨signed, outcome, keys, count, full, ?_, checked, ?_⟩
  · rw [independent _ _ agree, outcome]
  · rw [(transfers _ checked).2, show sampleTransfer.obligations = sampleBatch "00" from rfl, held]

end Batch

end CustodySigner
