import CustodySigner.Batch.Signer
import CustodySigner.Proofs.Dict

set_option autoImplicit false
set_option relaxedAutoImplicit false

/-!
A batch as one sequential run. The accounts are taken in some order and their obligations in list
order; the outcome is that of signing every obligation alone, up to the first that fails. The batch
signer is this run for the order of the keys, and what it logs has no influence on it.
-/

namespace CustodySigner

namespace Audited

variable {α β : Type}

theorem outcome_pure (a : α) : (pure a : Audited α).outcome = .ok a := rfl

theorem outcome_bind (x : Audited α) (f : α → Audited β) :
    (x >>= f).outcome = x.outcome >>= fun a => (f a).outcome := by
  change (Audited.bind x f).outcome = _
  unfold Audited.bind
  cases x.outcome <;> rfl

instance instLawfulMonad : LawfulMonad Audited := LawfulMonad.mk' Audited
  (fun x => by
    obtain ⟨outcome, events⟩ := x
    cases outcome with
    | ok a => exact congrArg (Audited.mk (.ok a)) (List.append_nil events)
    | error e => rfl)
  (fun _ _ => rfl)
  (fun x f g => by
    obtain ⟨outcome, events⟩ := x
    cases outcome with
    | error e => rfl
    | ok a =>
      change Audited.bind ⟨(f a).outcome, events ++ (f a).events⟩ g =
        Audited.bind ⟨.ok a, events⟩ fun a => Audited.bind (f a) g
      simp only [Audited.bind]
      cases (f a).outcome <;> simp)

theorem outcome_mapM (f : α → Audited β) (l : List α) :
    (l.mapM f).outcome = l.mapM fun a => (f a).outcome := by
  induction l with
  | nil => rfl
  | cons a l ih => simp only [List.mapM_cons, outcome_bind, outcome_pure, ih]; rfl

end Audited

namespace Dict

variable {α β : Type}

private theorem outcome_traverseEntries (f : String → α → Audited β)
    (entries : List (String × α)) :
    (traverseEntries f entries).outcome.map Subtype.val =
      entries.mapM fun entry => (f entry.1 entry.2).outcome.map (entry.1, ·) := by
  induction entries with
  | nil => rfl
  | cons entry rest ih =>
    obtain ⟨key, value⟩ := entry
    rw [List.mapM_cons, ← ih]
    simp only [traverseEntries, Audited.outcome_bind, Audited.outcome_pure]
    cases (f key value).outcome with
    | error e => rfl
    | ok b => cases (traverseEntries f rest).outcome <;> rfl

theorem outcome_traverse (f : String → α → Audited β) (d : Dict α) :
    (d.traverse f).outcome.map Dict.entries =
      d.entries.mapM fun entry => (f entry.1 entry.2).outcome.map (entry.1, ·) := by
  rw [← outcome_traverseEntries]
  simp only [traverse, Audited.outcome_bind, Audited.outcome_pure]
  cases (traverseEntries f d.entries).outcome <;> rfl

end Dict

namespace Batch

/-- The obligations of each account, in the order in which the accounts are taken. -/
abbrev Order := List (String × List Obligation)

/-- The obligations with their accounts, one after the other. -/
def items (order : Order) : List (String × Obligation) :=
  order.flatMap fun entry => entry.2.map (entry.1, ·)

variable (S : Suite) (config : Config) (store : KeyStore)

/-- Signs the obligations in the given order until one fails. -/
def signInOrder (order : Order) : Except SignerError Order :=
  order.mapM fun entry => (entry.2.mapM (signAlone S store entry.1)).map (entry.1, ·)

theorem outcome_signOne (account : String) (o : Obligation) :
    (signOne S config store account o).outcome = signAlone S store account o := by
  unfold signOne
  cases signAlone S store account o <;> rfl

/-- The batch signer is the sequential run in the order of the keys. -/
theorem outcome_signCopy (m : Obligations) :
    (signCopy S config store m).outcome.map Dict.entries = signInOrder S store m.entries := by
  have outcome : (signCopy S config store m).outcome =
      (Dict.traverse (m := Audited)
        (fun account list => list.mapM (signOne S config store account)) m).outcome := by
    simp only [signCopy]
    split <;> exact Eq.symm ‹_›
  rw [outcome, Dict.outcome_traverse, signInOrder]
  simp only [Audited.outcome_mapM, outcome_signOne]

variable {S config store}

theorem signCopy_eq_ok_iff {m signed : Obligations} :
    (signCopy S config store m).outcome = .ok signed ↔
      signInOrder S store m.entries = .ok signed.entries := by
  rw [← outcome_signCopy S config store m, map_eq_ok_iff]
  constructor
  · intro h
    exact ⟨signed, h, rfl⟩
  · rintro ⟨other, h, same⟩
    rwa [Dict.eq_of_entries_eq same] at h

theorem signCopy_eq_error_iff {m : Obligations} {e : SignerError} :
    (signCopy S config store m).outcome = .error e ↔ signInOrder S store m.entries = .error e := by
  rw [← outcome_signCopy S config store m, map_eq_error_iff]

theorem signInOrder_eq_ok_iff {order signed : Order} :
    signInOrder S store order = .ok signed ↔
      List.Forall₂ (fun entry entry' => entry'.1 = entry.1 ∧
        List.Forall₂ (fun o o' => signAlone S store entry.1 o = .ok o') entry.2 entry'.2)
        order signed := by
  have entrywise (entry entry' : String × List Obligation) :
      (entry.2.mapM (signAlone S store entry.1)).map (entry.1, ·) = .ok entry' ↔
        entry'.1 = entry.1 ∧
          List.Forall₂ (fun o o' => signAlone S store entry.1 o = .ok o') entry.2 entry'.2 := by
    rw [map_eq_ok_iff, ← mapM_eq_ok_iff]
    constructor
    · rintro ⟨list, h, rfl⟩
      exact ⟨rfl, h⟩
    · rintro ⟨same, h⟩
      exact ⟨entry'.2, h, Prod.ext same.symm rfl⟩
  unfold signInOrder
  simp only [mapM_eq_ok_iff, entrywise]

private theorem signInOrder_eq_error_iff_mapM_items {order : Order} {e : SignerError} :
    signInOrder S store order = .error e ↔
      ((items order).mapM fun item => signAlone S store item.1 item.2) = .error e := by
  unfold signInOrder items
  induction order with
  | nil => simp [pure, Except.pure]
  | cons entry rest ih =>
    rw [List.mapM_cons, List.flatMap_cons, List.mapM_append, List.mapM_map]
    simp only [Function.comp_def, bind_eq_error_iff, map_eq_error_iff, map_eq_ok_iff, ih]
    simp only [pure, Except.pure, reduceCtorEq, and_false, exists_false, or_false]
    constructor
    · rintro (h | ⟨-, ⟨list, h, rfl⟩, h'⟩)
      · exact .inl h
      · exact .inr ⟨list, h, h'⟩
    · rintro (h | ⟨list, h, h'⟩)
      · exact .inl h
      · exact .inr ⟨_, ⟨list, h, rfl⟩, h'⟩

theorem signInOrder_eq_error_iff {order : Order} {e : SignerError} :
    signInOrder S store order = .error e ↔ ∃ before item after,
      items order = before ++ item :: after ∧
      (∀ other ∈ before, ∃ o', signAlone S store other.1 other.2 = .ok o') ∧
      signAlone S store item.1 item.2 = .error e := by
  rw [signInOrder_eq_error_iff_mapM_items, mapM_eq_error_iff]

end Batch

end CustodySigner
