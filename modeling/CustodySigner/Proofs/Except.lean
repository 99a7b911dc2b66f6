import CustodySigner.Batch.Audit
import Mathlib.Data.List.Forall2

set_option autoImplicit false
set_option relaxedAutoImplicit false

/-!
Computations that may fail. In a list they run in order, and all of them succeed or the first failure
counts. A bound on the errors of the parts is one on the errors of the whole.
-/

namespace CustodySigner

section Except

variable {ε α β : Type}

theorem bind_eq_ok_iff {x : Except ε α} {f : α → Except ε β} {b : β} :
    (x >>= f) = .ok b ↔ ∃ a, x = .ok a ∧ f a = .ok b := by
  cases x with
  | ok a => simp [bind, Except.bind]
  | error e => simp [bind, Except.bind]

theorem bind_eq_error_iff {x : Except ε α} {f : α → Except ε β} {e : ε} :
    (x >>= f) = .error e ↔ x = .error e ∨ ∃ a, x = .ok a ∧ f a = .error e := by
  cases x with
  | ok a => simp [bind, Except.bind]
  | error e' => simp [bind, Except.bind]

theorem map_eq_ok_iff {x : Except ε α} {f : α → β} {b : β} :
    x.map f = .ok b ↔ ∃ a, x = .ok a ∧ f a = b := by
  cases x <;> simp [Except.map]

theorem map_eq_error_iff {x : Except ε α} {f : α → β} {e : ε} :
    x.map f = .error e ↔ x = .error e := by
  cases x <;> simp [Except.map]

theorem mapError_eq_ok_iff {ε' : Type} {x : Except ε α} {f : ε → ε'} {a : α} :
    x.mapError f = .ok a ↔ x = .ok a := by
  cases x <;> simp [Except.mapError]

theorem mapError_eq_error_iff {ε' : Type} {x : Except ε α} {f : ε → ε'} {e' : ε'} :
    x.mapError f = .error e' ↔ ∃ e, x = .error e ∧ f e = e' := by
  cases x <;> simp [Except.mapError]

theorem exists_eq_ok_of_toBool {x : Except ε α} (h : x.toBool = true) : ∃ a, x = .ok a := by
  cases x with
  | ok a => exact ⟨a, rfl⟩
  | error e => cases h

theorem eq_ok_of_toOption {x : Except ε α} {a : α} (h : x.toOption = some a) : x = .ok a := by
  cases x with
  | ok b => exact congrArg Except.ok (Option.some.inj h)
  | error e => cases h

theorem mapM_eq_ok_iff {f : α → Except ε β} {l : List α} {l' : List β} :
    l.mapM f = .ok l' ↔ List.Forall₂ (fun a b => f a = .ok b) l l' := by
  induction l generalizing l' with
  | nil => simp [pure, Except.pure, eq_comm]
  | cons a l ih =>
    rw [List.mapM_cons, bind_eq_ok_iff, List.forall₂_cons_left_iff]
    constructor
    · rintro ⟨b, hb, h⟩
      obtain ⟨rest, hrest, h⟩ := bind_eq_ok_iff.1 h
      exact ⟨b, rest, hb, ih.1 hrest, (Except.ok.inj h).symm⟩
    · rintro ⟨b, rest, hb, hrest, rfl⟩
      exact ⟨b, hb, bind_eq_ok_iff.2 ⟨rest, ih.2 hrest, rfl⟩⟩

/-- The list fails with the failure of its first element that fails. -/
theorem mapM_eq_error_iff {f : α → Except ε β} {l : List α} {e : ε} :
    l.mapM f = .error e ↔ ∃ before a after, l = before ++ a :: after ∧
      (∀ b ∈ before, ∃ c, f b = .ok c) ∧ f a = .error e := by
  induction l with
  | nil => simp [pure, Except.pure]
  | cons a l ih =>
    rw [List.mapM_cons, bind_eq_error_iff]
    constructor
    · rintro (h | ⟨b, hb, h⟩)
      · exact ⟨[], a, l, rfl, by simp, h⟩
      · rcases bind_eq_error_iff.1 h with h | ⟨rest, -, h⟩
        · obtain ⟨before, x, after, rfl, good, bad⟩ := ih.1 h
          exact ⟨a :: before, x, after, rfl, by simpa [hb] using good, bad⟩
        · cases h
    · rintro ⟨before, x, after, split, good, bad⟩
      cases before with
      | nil =>
        obtain ⟨rfl, rfl⟩ := List.cons.inj split
        exact .inl bad
      | cons y before =>
        obtain ⟨rfl, rfl⟩ := List.cons.inj split
        obtain ⟨b, hb⟩ := good a List.mem_cons_self
        have tail := ih.2 ⟨before, x, after, rfl,
          fun z hz => good z (List.mem_cons_of_mem a hz), bad⟩
        exact .inr ⟨b, hb, bind_eq_error_iff.2 (.inl tail)⟩

theorem exists_of_mem_forall₂ {R : α → β → Prop} {l : List α} {l' : List β}
    (h : List.Forall₂ R l l') {a : α} (mem : a ∈ l) : ∃ b ∈ l', R a b := by
  induction h with
  | nil => simp at mem
  | cons head _ ih =>
    rcases List.mem_cons.1 mem with rfl | mem
    · exact ⟨_, List.mem_cons_self, head⟩
    · obtain ⟨b, hb, related⟩ := ih mem
      exact ⟨b, List.mem_cons_of_mem _ hb, related⟩

theorem exists_of_mem_right_forall₂ {R : α → β → Prop} {l : List α} {l' : List β}
    (h : List.Forall₂ R l l') {b : β} (mem : b ∈ l') : ∃ a ∈ l, R a b :=
  exists_of_mem_forall₂ h.flip mem

theorem exists_forall₂ {R : α → β → Prop} {l : List α} (h : ∀ a ∈ l, ∃ b, R a b) :
    ∃ l', List.Forall₂ R l l' := by
  induction l with
  | nil => exact ⟨[], .nil⟩
  | cons a l ih =>
    obtain ⟨⟨b, head⟩, h⟩ := List.forall_mem_cons.1 h
    obtain ⟨l', tail⟩ := ih h
    exact ⟨b :: l', .cons head tail⟩

theorem exists_mapM_eq_error_iff {f : α → Except ε β} {l : List α} :
    (∃ e, l.mapM f = .error e) ↔ ∃ a ∈ l, ∃ e, f a = .error e := by
  constructor
  · rintro ⟨e, h⟩
    obtain ⟨before, a, after, rfl, -, bad⟩ := mapM_eq_error_iff.1 h
    exact ⟨a, by simp, e, bad⟩
  · rintro ⟨a, mem, e, bad⟩
    cases h : l.mapM f with
    | error e' => exact ⟨e', rfl⟩
    | ok l' =>
      obtain ⟨b, -, hb⟩ := exists_of_mem_forall₂ (mapM_eq_ok_iff.1 h) mem
      exact absurd (bad.symm.trans hb) (by simp)

theorem mapM_congr_of_forall₂ {f : α → Except ε β} {l l' : List α}
    (h : List.Forall₂ (fun a b => f a = f b) l l') : l.mapM f = l'.mapM f := by
  induction h with
  | nil => rfl
  | cons head _ ih => rw [List.mapM_cons, List.mapM_cons, head, ih]

end Except

/-- Every error of the computation is one of these. -/
def FailsWithin {ε α : Type} (P : ε → Prop) (x : Except ε α) : Prop :=
  ∀ e, x = .error e → P e

namespace FailsWithin

variable {ε α β : Type} {P : ε → Prop}

theorem ok (a : α) : FailsWithin P (.ok a : Except ε α) := by
  intro e h
  cases h

theorem error {e : ε} (h : P e) : FailsWithin P (.error e : Except ε α) := by
  intro e' same
  cases same
  exact h

theorem bind {x : Except ε α} {f : α → Except ε β} (first : FailsWithin P x)
    (next : ∀ a, FailsWithin P (f a)) : FailsWithin P (x >>= f) := by
  intro e h
  rcases bind_eq_error_iff.1 h with h | ⟨a, -, h⟩
  · exact first e h
  · exact next a e h

theorem map {x : Except ε α} (h : FailsWithin P x) (f : α → β) : FailsWithin P (x.map f) := by
  intro e failed
  exact h e (map_eq_error_iff.1 failed)

theorem foldlM {f : β → α → Except ε β} (step : ∀ b a, FailsWithin P (f b a)) (l : List α) (b : β) :
    FailsWithin P (l.foldlM f b) := by
  induction l generalizing b with
  | nil => exact ok b
  | cons a l ih =>
    rw [List.foldlM_cons]
    exact (step b a).bind ih

end FailsWithin

end CustodySigner
