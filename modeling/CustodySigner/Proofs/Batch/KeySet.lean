import CustodySigner.Proofs.Batch.Secrecy

set_option autoImplicit false
set_option relaxedAutoImplicit false

/-!
The key set of a transfer. A transfer is refused before anything is signed when the account that made
it has no entry among the obligations, or when fewer obligations are attached than signatures are
required. An entry without obligations counts as an entry: an account that owns nothing passes if the
others own enough.
-/

namespace CustodySigner

namespace Transfer

/-- The account that made the transfer has no entry among the obligations. -/
def Unlisted (t : Transfer) : Prop :=
  t.account ≠ "" ∧ t.obligations.find? t.account = none

/-- The account that made the transfer has an entry without obligations. -/
def ListedBare (t : Transfer) : Prop :=
  t.account ≠ "" ∧ t.obligations.find? t.account = some []

/-- Fewer obligations are attached than signatures are required. -/
def Short (t : Transfer) : Prop :=
  t.obligations.count < t.required.toNat

instance instDecidableUnlisted (t : Transfer) : Decidable t.Unlisted :=
  inferInstanceAs (Decidable (_ ∧ _))

instance instDecidableShort (t : Transfer) : Decidable t.Short :=
  inferInstanceAs (Decidable (_ < _))

/-- The account that made the transfer owns no obligation, or there are too few of them. -/
def Incomplete (t : Transfer) : Prop :=
  (t.account ≠ "" ∧ ∀ list, t.obligations.find? t.account = some list → list = []) ∨ t.Short

theorem incomplete_iff {t : Transfer} :
    t.Incomplete ↔ t.Unlisted ∨ t.ListedBare ∨ t.Short := by
  unfold Incomplete Unlisted ListedBare
  cases found : t.obligations.find? t.account with
  | none => simp
  | some list => simp

/-- The transfers ask for the same signatures of the same accounts, whatever else they hold. -/
structure SameShape (t t' : Transfer) : Prop where
  account : t'.account = t.account
  required : t'.required = t.required
  lengths : Dict.Related (fun _ list list' => list'.length = list.length) t.obligations t'.obligations

namespace SameShape

variable {t t' : Transfer}

theorem count (h : SameShape t t') : t'.obligations.count = t.obligations.count :=
  Obligations.count_eq_of_related (fun lengths => lengths) h.lengths

theorem unlisted_iff (h : SameShape t t') : t'.Unlisted ↔ t.Unlisted := by
  unfold Unlisted
  rw [h.account]
  refine and_congr_right fun _ => ?_
  rw [Option.eq_none_iff_forall_ne_some, Option.eq_none_iff_forall_ne_some]
  constructor
  · intro missing list found
    obtain ⟨list', found', -⟩ := h.lengths.exists_find? found
    exact missing list' found'
  · intro missing list' found'
    obtain ⟨list, found, -⟩ := h.lengths.exists_find?_left found'
    exact missing list found

theorem short_iff (h : SameShape t t') : t'.Short ↔ t.Short := by
  unfold Short
  rw [h.count, h.required]

end SameShape

/-- What is said of a transfer that is refused for its key set. -/
def keySetError (t : Transfer) (message : String) : SignerError :=
  ⟨.incompleteKeySet, message, some ("account=" ++ t.account)⟩

def unlistedError (t : Transfer) : SignerError :=
  t.keySetError ("No signing obligations for account " ++ t.account)

def shortError (t : Transfer) : SignerError :=
  t.keySetError ("Transaction requires " ++ toString t.required.toNat ++ " signatures, " ++
    toString t.obligations.count ++ " obligations attached")

end Transfer

namespace Batch

variable {S : Suite} {config : Config} {store : KeyStore} {t t' : Transfer}

theorem checkKeySet_eq_error_iff {e : SignerError} :
    checkKeySet t = .error e ↔
      t.Unlisted ∧ e = t.unlistedError ∨ ¬ t.Unlisted ∧ t.Short ∧ e = t.shortError := by
  have guard : (t.account ≠ "" && !t.obligations.contains t.account) = true ↔ t.Unlisted := by
    simp [Transfer.Unlisted, Dict.contains]
  have verdict : checkKeySet t =
      if t.Unlisted then .error t.unlistedError
      else if t.Short then .error t.shortError
      else .ok () := by
    unfold checkKeySet
    simp only [guard]
    rfl
  rw [verdict]
  by_cases unlisted : t.Unlisted
  · simp [unlisted, eq_comm]
  · by_cases short : t.Short
    · simp [unlisted, short, eq_comm]
    · simp [unlisted, short]

theorem checkKeySet_eq_error_of_sameShape {e : SignerError} (shape : t.SameShape t')
    (h : checkKeySet t = .error e) : checkKeySet t' = .error e := by
  have unlistedError : t'.unlistedError = t.unlistedError := by
    unfold Transfer.unlistedError Transfer.keySetError
    rw [shape.account]
  have shortError : t'.shortError = t.shortError := by
    unfold Transfer.shortError Transfer.keySetError
    rw [shape.account, shape.required, shape.count]
  rw [checkKeySet_eq_error_iff] at h ⊢
  rwa [shape.unlisted_iff, shape.short_iff, unlistedError, shortError]

theorem outcome_signTransfer_of_refused {e : SignerError} (h : checkKeySet t = .error e) :
    (signTransfer S config store t).outcome = .error e := by
  simp only [signTransfer, h]

/-- Signing the transfer fails for its key set. -/
def RefusesKeySet (S : Suite) (config : Config) (store : KeyStore) (t : Transfer) : Prop :=
  ∃ e, (signTransfer S config store t).outcome = .error e ∧ e.code = .incompleteKeySet

theorem code_ne_incompleteKeySet {account : String} {o : Obligation} {e : SignerError}
    (h : signAlone S store account o = .error e) : e.code ≠ .incompleteKeySet := by
  have ends : Ends S store o (some e.code) := ends_iff.2 (congrArg failureCode h)
  intro code
  have mem := ends.mem_obligationCodes
  rw [code] at mem
  exact absurd mem (by decide)

theorem checkKeySet_of_code {e : SignerError}
    (h : (signTransfer S config store t).outcome = .error e) (code : e.code = .incompleteKeySet) :
    checkKeySet t = .error e := by
  cases checked : checkKeySet t with
  | error e' =>
    have refused : (signTransfer S config store t).outcome = .error e' :=
      outcome_signTransfer_of_refused checked
    exact refused.symm.trans h
  | ok =>
    obtain ⟨before, item, after, -, -, bad⟩ :=
      signInOrder_eq_error_iff.1 ((signTransfer_eq_error_iff checked).1 h)
    exact absurd code (code_ne_incompleteKeySet bad)

theorem refusesKeySet_iff : RefusesKeySet S config store t ↔ t.Unlisted ∨ t.Short := by
  constructor
  · rintro ⟨e, failed, code⟩
    rcases checkKeySet_eq_error_iff.1 (checkKeySet_of_code failed code) with
      ⟨unlisted, -⟩ | ⟨-, short, -⟩
    · exact .inl unlisted
    · exact .inr short
  · intro lacking
    by_cases unlisted : t.Unlisted
    · have refused := checkKeySet_eq_error_iff.2 (.inl ⟨unlisted, rfl⟩)
      exact ⟨_, outcome_signTransfer_of_refused refused, rfl⟩
    · have short := lacking.resolve_left unlisted
      have refused := checkKeySet_eq_error_iff.2 (.inr ⟨unlisted, short, rfl⟩)
      exact ⟨_, outcome_signTransfer_of_refused refused, rfl⟩

theorem exists_signed_entry (h : (signTransfer S config store t).outcome = .ok ())
    (named : t.account ≠ "") :
    ∃ list list', t.obligations.find? t.account = some list ∧
      (signTransfer S config store t).held.obligations.find? t.account = some list' ∧
      list'.length = list.length ∧ ∀ o ∈ list', o.isSigned = true := by
  cases checked : checkKeySet t with
  | error e =>
    cases (outcome_signTransfer_of_refused checked).symm.trans h
  | ok =>
    have listed : ¬ t.Unlisted := by
      intro unlisted
      cases checked.symm.trans (checkKeySet_eq_error_iff.2 (.inl ⟨unlisted, rfl⟩))
    obtain ⟨list, found⟩ := Option.ne_none_iff_exists'.1 fun missing => listed ⟨named, missing⟩
    obtain ⟨outcome, held⟩ := signTransfer_of_checked S config store checked
    obtain ⟨signed, signing, -⟩ := map_eq_ok_iff.1 (outcome.symm.trans h)
    rw [outcome_signObligations] at signing
    obtain ⟨list', found', lists⟩ :=
      (signCopy_eq_ok_iff_related.1 signing).exists_find? found
    refine ⟨list, list', found, ?_, lists.length_eq.symm, fun o' mem => ?_⟩
    · rwa [held, held_signObligations_of_ok signing]
    · obtain ⟨o, -, signs⟩ := exists_of_mem_right_forall₂ lists mem
      exact signs.carriesSignature.isSigned

/-- A transfer fails for its key set exactly when the account that made it has no entry or obligations
are missing. It then stays as it was, and the error says nothing of the store or of what the obligations
hold. The transfers that lack an obligation of that account and are signed all the same are those in
which the account has an entry without obligations and the others own enough; after every other
success it owns a signed one. -/
theorem key_set_refused_iff_unlisted_or_short (S : Suite) (config : Config) (store : KeyStore)
    (t : Transfer) :
    (RefusesKeySet S config store t ↔ t.Unlisted ∨ t.Short) ∧
    (∀ e, (signTransfer S config store t).outcome = .error e → e.code = .incompleteKeySet →
      (signTransfer S config store t).held = t ∧
      ∀ S' config' store' t', t.SameShape t' →
        (signTransfer S' config' store' t').outcome = .error e) ∧
    ((RefusesKeySet S config store t ↔ t.Incomplete) ↔ ¬ (t.ListedBare ∧ ¬ t.Short)) ∧
    ((signTransfer S config store t).outcome = .ok () → t.account ≠ "" →
      ∃ list, (signTransfer S config store t).held.obligations.find? t.account = some list ∧
        (∀ o ∈ list, o.isSigned = true) ∧ (list = [] ↔ t.ListedBare)) := by
  refine ⟨refusesKeySet_iff, fun e failed code => ⟨held_signTransfer_of_error failed, ?_⟩, ?_,
    fun signed named => ?_⟩
  · intro S' config' store' t' shape
    exact outcome_signTransfer_of_refused
      (checkKeySet_eq_error_of_sameShape shape (checkKeySet_of_code failed code))
  · have exclusive : t.ListedBare → ¬ t.Unlisted := by
      rintro ⟨-, bare⟩ ⟨-, missing⟩
      cases bare.symm.trans missing
    rw [refusesKeySet_iff, Transfer.incomplete_iff]
    tauto
  · obtain ⟨list, list', found, found', length, full⟩ := exists_signed_entry signed named
    refine ⟨list', found', full, ?_⟩
    unfold Transfer.ListedBare
    rw [← List.length_eq_zero_iff, length, List.length_eq_zero_iff, found]
    simp [named]

/-- One obligation, owned by another account than the one that made the transfer. -/
def othersTransfer (own : List (String × List Obligation))
    (sorted : (own ++ [("trading", [goodObligation])]).Pairwise fun a b => a.1 < b.1) : Transfer :=
  { Transfer.blank with
    account := "savings"
    required := 1
    obligations := ⟨own ++ [("trading", [goodObligation])], sorted⟩ }

/-- The account that made the transfer has no entry. -/
def unlistedTransfer : Transfer :=
  othersTransfer [] (List.pairwise_singleton _ _)

/-- The account that made the transfer has an entry without obligations. -/
def bareTransfer : Transfer :=
  othersTransfer [("savings", [])] (List.pairwise_pair.2 (show "savings" < "trading" by decide))

/-- The transfer without an entry for its account with another obligation. -/
def unlistedTransfer' : Transfer :=
  { unlistedTransfer with
    obligations := ⟨[("trading", [distantObligation])], List.pairwise_singleton _ _⟩ }

theorem key_set_refused_iff_unlisted_or_short_samples :
    (∃ e, e.code = .incompleteKeySet ∧
      (signTransfer .standard .default (uniformKey.store .standard) unlistedTransfer).outcome =
        .error e ∧
      (signTransfer .standard .default (uniformKey.store .standard) unlistedTransfer).held =
        unlistedTransfer ∧
      (signTransfer .standard .debug lockedStore unlistedTransfer').outcome = .error e) ∧
    ¬ RefusesKeySet .standard .default (uniformKey.store .standard) bareTransfer ∧
    ∃ list, (signTransfer .standard .default sampleStore sampleTransfer).held.obligations.find?
        "savings" = some list ∧ list ≠ [] ∧ ∀ o ∈ list, o.isSigned = true := by
  refine ⟨?_, ?_, ?_⟩
  · obtain ⟨refused, unchanged, -⟩ := key_set_refused_iff_unlisted_or_short .standard .default
      (uniformKey.store .standard) unlistedTransfer
    obtain ⟨e, failed, code⟩ := refused.2 (by decide)
    obtain ⟨held, alike⟩ := unchanged e failed code
    have shape : unlistedTransfer.SameShape unlistedTransfer' :=
      ⟨rfl, rfl, .cons ⟨rfl, rfl⟩ .nil⟩
    exact ⟨e, code, failed, held, alike _ _ _ _ shape⟩
  · obtain ⟨passed, -⟩ := key_set_refused_iff_unlisted_or_short .standard .default
      (uniformKey.store .standard) bareTransfer
    exact mt passed.1 (by decide)
  · obtain ⟨-, -, -, owns⟩ :=
      key_set_refused_iff_unlisted_or_short .standard .default sampleStore sampleTransfer
    obtain ⟨signed, outcome⟩ := exists_outcome_sampleBatch
    have checked : checkKeySet sampleTransfer = .ok () := by decide
    have success : (signTransfer .standard .default sampleStore sampleTransfer).outcome = .ok () := by
      rw [(signTransfer_of_checked _ _ _ checked).1,
        show sampleTransfer.obligations = sampleBatch "00" from rfl, outcome]
      rfl
    obtain ⟨list, found, full, bare⟩ := owns success (by decide)
    exact ⟨list, found, fun empty => absurd (bare.1 empty).2 nofun, full⟩

/-- A transfer is signed although the account that made it owns no obligation, neither before nor
afterwards. -/
theorem signs_without_creator_obligation :
    bareTransfer.Incomplete ∧
      (signTransfer .standard .default (uniformKey.store .standard) bareTransfer).outcome = .ok () ∧
      (signTransfer .standard .default (uniformKey.store .standard) bareTransfer).held.obligations.find?
        bareTransfer.account = some [] := by
  have bare : bareTransfer.ListedBare := ⟨by decide, rfl⟩
  have checked : checkKeySet bareTransfer = .ok () := by decide
  obtain ⟨outcome, held⟩ :=
    signTransfer_of_checked .standard .default (uniformKey.store .standard) checked
  obtain ⟨o', signs⟩ := exists_signs_goodObligation uniformKey
  let signed : Obligations :=
    ⟨[("savings", []), ("trading", [o'])], List.pairwise_pair.2 (show "savings" < "trading" by decide)⟩
  have related : Dict.Related (fun _ => List.Forall₂ (Signs .standard (uniformKey.store .standard)))
      bareTransfer.obligations signed :=
    .cons ⟨rfl, .nil⟩ (.cons ⟨rfl, .cons signs .nil⟩ .nil)
  have signing : (signCopy .standard .default (uniformKey.store .standard)
      bareTransfer.obligations).outcome = .ok signed := signCopy_eq_ok_iff_related.2 related
  refine ⟨Transfer.incomplete_iff.2 (.inr (.inl bare)), ?_, ?_⟩
  · rw [outcome, outcome_signObligations, signing]
    rfl
  · rw [held, held_signObligations_of_ok signing]
    rfl

end Batch

end CustodySigner
