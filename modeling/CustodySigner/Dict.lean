set_option autoImplicit false
set_option relaxedAutoImplicit false

/-!
Finite maps with text keys. The entries are kept in the order of their keys, so two maps with the
same entries are equal, and every traversal has one order.
-/

namespace CustodySigner

/-- A finite map from texts. -/
structure Dict (α : Type) where
  entries : List (String × α)
  sorted : entries.Pairwise fun a b => a.1 < b.1
deriving DecidableEq, Repr

namespace Dict

variable {α β : Type}

def empty : Dict α := ⟨[], .nil⟩

/-- The entries with a new value at a key. -/
def insertEntry (key : String) (value : α) : List (String × α) → List (String × α)
  | [] => [(key, value)]
  | entry :: rest =>
    if key < entry.1 then (key, value) :: entry :: rest
    else if key = entry.1 then (key, value) :: rest
    else entry :: insertEntry key value rest

theorem mem_insertEntry {key : String} {value : α} {entries : List (String × α)}
    {entry : String × α} (h : entry ∈ insertEntry key value entries) :
    entry = (key, value) ∨ entry ∈ entries := by
  induction entries with
  | nil => exact .inl (by simpa [insertEntry] using h)
  | cons first rest ih =>
    unfold insertEntry at h
    split at h
    · rcases List.mem_cons.1 h with h | h
      · exact .inl h
      · exact .inr h
    · split at h
      · rcases List.mem_cons.1 h with h | h
        · exact .inl h
        · exact .inr (List.mem_cons_of_mem _ h)
      · rcases List.mem_cons.1 h with h | h
        · exact .inr (h ▸ List.mem_cons_self)
        · exact (ih h).imp_right (List.mem_cons_of_mem _)

theorem sorted_insertEntry (key : String) (value : α) {entries : List (String × α)}
    (h : entries.Pairwise fun a b => a.1 < b.1) :
    (insertEntry key value entries).Pairwise fun a b => a.1 < b.1 := by
  induction entries with
  | nil => simp [insertEntry]
  | cons first rest ih =>
    have ⟨below, more⟩ := List.pairwise_cons.1 h
    unfold insertEntry
    split
    · rename_i lt
      refine List.pairwise_cons.2 ⟨fun entry mem => ?_, h⟩
      rcases List.mem_cons.1 mem with rfl | mem
      · exact lt
      · exact String.lt_trans lt (below _ mem)
    · split
      · rename_i eq
        exact List.pairwise_cons.2 ⟨fun entry mem => eq ▸ below _ mem, more⟩
      · rename_i notLt ne
        refine List.pairwise_cons.2 ⟨fun entry mem => ?_, ih more⟩
        rcases mem_insertEntry mem with rfl | mem
        · exact Std.lt_of_le_of_ne (String.not_lt.1 notLt) (Ne.symm ne)
        · exact below _ mem

/-- The map with a value at a key, in place of the one that was there. -/
def insert (d : Dict α) (key : String) (value : α) : Dict α :=
  ⟨insertEntry key value d.entries, sorted_insertEntry key value d.sorted⟩

/-- The map with these entries; of two entries for a key the later one counts. -/
def ofList (entries : List (String × α)) : Dict α :=
  entries.foldl (fun d entry => d.insert entry.1 entry.2) empty

def keys (d : Dict α) : List String :=
  d.entries.map (·.1)

def values (d : Dict α) : List α :=
  d.entries.map (·.2)

def size (d : Dict α) : Nat :=
  d.entries.length

def find? (d : Dict α) (key : String) : Option α :=
  (d.entries.find? (·.1 == key)).map (·.2)

def contains (d : Dict α) (key : String) : Bool :=
  (d.find? key).isSome

def erase (d : Dict α) (key : String) : Dict α :=
  ⟨d.entries.filter (·.1 != key), d.sorted.sublist List.filter_sublist⟩

theorem sorted_of_keys_eq {entries : List (String × α)} {others : List (String × β)}
    (h : entries.Pairwise fun a b => a.1 < b.1) (same : others.map (·.1) = entries.map (·.1)) :
    others.Pairwise fun a b => a.1 < b.1 := by
  have keys : (entries.map (·.1)).Pairwise (· < ·) := List.pairwise_map.2 h
  exact List.pairwise_map.1 (same ▸ keys)

/-- Runs an effect for each entry, in order, and keeps the keys. -/
def traverseEntries {m : Type → Type} [Monad m] (f : String → α → m β) :
    (entries : List (String × α)) → m { others : List (String × β) //
      others.map (·.1) = entries.map (·.1) }
  | [] => pure ⟨[], rfl⟩
  | (key, value) :: rest => do
    let value ← f key value
    let ⟨others, same⟩ ← traverseEntries f rest
    pure ⟨(key, value) :: others, by simp [same]⟩

/-- Runs an effect for each entry, in the order of the keys. -/
def traverse {m : Type → Type} [Monad m] (f : String → α → m β) (d : Dict α) : m (Dict β) := do
  let ⟨others, same⟩ ← traverseEntries f d.entries
  pure ⟨others, sorted_of_keys_eq d.sorted same⟩

end Dict

end CustodySigner
