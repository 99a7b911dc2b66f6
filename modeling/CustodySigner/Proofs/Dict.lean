import CustodySigner.Dict
import CustodySigner.Proofs.Except
import Mathlib.Data.String.Basic

set_option autoImplicit false
set_option relaxedAutoImplicit false

/-!
Two finite maps are related when they have the same keys and the values at each key are related;
this is what a traversal that succeeds establishes. A map is given by its entries in any order.
-/

namespace CustodySigner.Dict

variable {α β γ : Type}

theorem find?_eq_some_iff {d : Dict α} {key : String} {value : α} :
    d.find? key = some value ↔ (key, value) ∈ d.entries := by
  constructor
  · intro h
    obtain ⟨entry, found, rfl⟩ := Option.map_eq_some_iff.1 h
    have same : entry.1 = key := by simpa using List.find?_some found
    exact same ▸ List.mem_of_find?_eq_some found
  · intro mem
    obtain ⟨before, after, split⟩ := List.append_of_mem mem
    have sorted := d.sorted
    rw [split] at sorted
    -- the keys in front are smaller, so the search passes over them
    have missed : ∀ entry ∈ before, (entry.1 == key) = false := by
      intro entry hentry
      have below : entry.1 < key :=
        (List.pairwise_append.1 sorted).2.2 entry hentry _ List.mem_cons_self
      simpa using below.ne
    have front : before.find? (·.1 == key) = none := by
      simpa using fun k v h => by simpa using missed (k, v) h
    simp [find?, split, List.find?_append, front]

theorem eq_of_entries_eq {d d' : Dict α} (h : d.entries = d'.entries) : d = d' := by
  cases d
  cases d'
  simpa using h

/-- The maps have the same keys, and the values at each key are related. -/
def Related (R : String → α → β → Prop) (d : Dict α) (d' : Dict β) : Prop :=
  List.Forall₂ (fun entry entry' => entry'.1 = entry.1 ∧ R entry.1 entry.2 entry'.2)
    d.entries d'.entries

namespace Related

variable {R : String → α → β → Prop} {d : Dict α} {d' : Dict β}

theorem keys_eq (h : Related R d d') : d'.keys = d.keys := by
  have firsts {l : List (String × α)} {l' : List (String × β)}
      (h : List.Forall₂ (fun entry entry' => entry'.1 = entry.1 ∧
        R entry.1 entry.2 entry'.2) l l') : l'.map (·.1) = l.map (·.1) := by
    induction h with
    | nil => rfl
    | cons head _ ih => simp [head.1, ih]
  exact firsts h

theorem exists_find? (h : Related R d d') {key : String} {value : α}
    (found : d.find? key = some value) :
    ∃ value', d'.find? key = some value' ∧ R key value value' := by
  obtain ⟨⟨key', value'⟩, mem, same, related⟩ :=
    exists_of_mem_forall₂ h (find?_eq_some_iff.1 found)
  obtain rfl : key' = key := same
  exact ⟨value', find?_eq_some_iff.2 mem, related⟩

theorem exists_find?_left (h : Related R d d') {key : String} {value' : β}
    (found : d'.find? key = some value') :
    ∃ value, d.find? key = some value ∧ R key value value' := by
  obtain ⟨⟨key', value⟩, mem, same, related⟩ :=
    exists_of_mem_right_forall₂ h (find?_eq_some_iff.1 found)
  obtain rfl : key = key' := same
  exact ⟨value, find?_eq_some_iff.2 mem, related⟩

theorem of_find? (keys : d'.keys = d.keys)
    (h : ∀ key value value', d.find? key = some value → d'.find? key = some value' →
      R key value value') : Related R d d' := by
  have length : d.entries.length = d'.entries.length := by
    simpa [Dict.keys] using congrArg List.length keys.symm
  refine List.forall₂_of_length_eq_of_get length fun i hi hi' => ?_
  have same : (d'.entries.get ⟨i, hi'⟩).1 = (d.entries.get ⟨i, hi⟩).1 := by
    have := congrArg (·[i]?) keys
    simpa [Dict.keys, hi, hi'] using this
  refine ⟨same, h _ _ _ (find?_eq_some_iff.2 (List.get_mem _ _)) ?_⟩
  exact find?_eq_some_iff.2 (same ▸ List.get_mem d'.entries ⟨i, hi'⟩)

end Related

private theorem firsts_adjust (key : String) (f : α → α) (entries : List (String × α)) :
    (entries.map fun entry => if entry.1 = key then (entry.1, f entry.2) else entry).map (·.1) =
      entries.map (·.1) := by
  rw [List.map_map]
  refine List.map_congr_left fun entry _ => ?_
  simp only [Function.comp_apply]
  split <;> rfl

/-- The map with a function applied to the value at a key. -/
def adjust (d : Dict α) (key : String) (f : α → α) : Dict α :=
  ⟨d.entries.map fun entry => if entry.1 = key then (entry.1, f entry.2) else entry,
    sorted_of_keys_eq d.sorted (firsts_adjust key f d.entries)⟩

@[simp] theorem keys_adjust (d : Dict α) (key : String) (f : α → α) :
    (d.adjust key f).keys = d.keys :=
  firsts_adjust key f d.entries

theorem find?_adjust (d : Dict α) (key other : String) (f : α → α) :
    (d.adjust key f).find? other =
      if other = key then (d.find? other).map f else d.find? other := by
  have same : ((fun entry : String × α => entry.1 == other) ∘
      fun entry => if entry.1 = key then (entry.1, f entry.2) else entry) = (·.1 == other) := by
    funext entry
    simp only [Function.comp_apply]
    split <;> rfl
  simp only [find?, adjust, List.find?_map, same]
  cases found : d.entries.find? (·.1 == other) with
  | none => simp
  | some entry =>
    have here : entry.1 = other := by simpa using List.find?_some found
    by_cases equal : other = key
    · simp [here, equal]
    · simp [here, equal]

theorem perm_insertEntry {key : String} {value : α} {entries : List (String × α)}
    (fresh : key ∉ entries.map (·.1)) :
    (insertEntry key value entries).Perm ((key, value) :: entries) := by
  induction entries with
  | nil => exact .refl _
  | cons entry rest ih =>
    rw [List.map_cons, List.mem_cons, not_or] at fresh
    obtain ⟨new, fresh⟩ := fresh
    unfold insertEntry
    rw [if_neg new]
    split
    · exact .refl _
    · exact ((ih fresh).cons entry).trans (.swap _ _ _)

private theorem perm_foldl_insert {entries : List (String × α)} {d : Dict α}
    (distinct : ((entries ++ d.entries).map (·.1)).Nodup) :
    (entries.foldl (fun d entry => d.insert entry.1 entry.2) d).entries.Perm
      (entries ++ d.entries) := by
  induction entries generalizing d with
  | nil => exact .refl _
  | cons entry rest ih =>
    simp only [List.cons_append, List.map_cons, List.nodup_cons] at distinct
    obtain ⟨new, distinct⟩ := distinct
    have fresh : entry.1 ∉ d.entries.map (·.1) := by
      intro mem
      refine new ?_
      rw [List.map_append]
      exact List.mem_append_right _ mem
    have joined : (d.insert entry.1 entry.2).entries.Perm (entry :: d.entries) :=
      perm_insertEntry fresh
    have moved : (rest ++ (d.insert entry.1 entry.2).entries).Perm (entry :: (rest ++ d.entries)) :=
      (joined.append_left rest).trans List.perm_middle
    have still : ((rest ++ (d.insert entry.1 entry.2).entries).map (·.1)).Nodup := by
      refine (moved.map _).nodup_iff.2 ?_
      exact List.nodup_cons.2 ⟨new, distinct⟩
    rw [List.foldl_cons]
    exact (ih still).trans moved

theorem ofList_eq_of_perm {d : Dict α} {entries : List (String × α)}
    (h : d.entries.Perm entries) : ofList entries = d := by
  have keys : (d.entries.map (·.1)).Nodup :=
    List.pairwise_map.2 (d.sorted.imp fun lt => lt.ne)
  have distinct : ((entries ++ (empty : Dict α).entries).map (·.1)).Nodup := by
    rw [show (empty : Dict α).entries = [] from rfl, List.append_nil]
    exact (h.map _).nodup_iff.1 keys
  have same : (ofList entries).entries.Perm d.entries := by
    have folded := perm_foldl_insert distinct
    rw [show (empty : Dict α).entries = [] from rfl, List.append_nil] at folded
    exact folded.trans h.symm
  refine eq_of_entries_eq (same.eq_of_pairwise ?_ (ofList entries).sorted d.sorted)
  intro a b _ _ lt gt
  exact absurd gt lt.asymm

end CustodySigner.Dict
