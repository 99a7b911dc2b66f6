import CustodySigner.Proofs.Batch.Sequential
import Mathlib.Data.List.Nodup

set_option autoImplicit false
set_option relaxedAutoImplicit false

/-!
The slots of a map of obligations: the places that a signature may be written to. Maps with the same
accounts are compared slot by slot, and writing to one slot leaves the others alone.
-/

namespace CustodySigner

/-- The place of an obligation: its account and its position in the account's list. -/
@[ext] structure Slot where
  account : String
  index : Nat
deriving DecidableEq, Repr

/-- The slots of the obligations when the accounts are taken in this order. -/
def Batch.slotsOf (order : Order) : List Slot :=
  order.flatMap fun entry => (List.range entry.2.length).map (⟨entry.1, ·⟩)

namespace Obligations

def at? (m : Obligations) (slot : Slot) : Option Obligation :=
  (m.find? slot.account).bind (·[slot.index]?)

def slots (m : Obligations) : List Slot :=
  Batch.slotsOf m.entries

/-- The obligation in the slot with its account. -/
def item? (m : Obligations) (slot : Slot) : Option (String × Obligation) :=
  (m.at? slot).map (slot.account, ·)

/-- The map with another obligation in the slot. -/
def put (m : Obligations) (slot : Slot) (o : Obligation) : Obligations :=
  m.adjust slot.account (·.set slot.index o)

theorem at?_eq_some_iff {m : Obligations} {slot : Slot} {o : Obligation} :
    m.at? slot = some o ↔
      ∃ list, m.find? slot.account = some list ∧ list[slot.index]? = some o :=
  Option.bind_eq_some_iff

theorem mem_slots_iff {m : Obligations} {slot : Slot} :
    slot ∈ m.slots ↔ ∃ o, m.at? slot = some o := by
  simp only [slots, Batch.slotsOf, List.mem_flatMap, List.mem_map, List.mem_range, at?_eq_some_iff]
  constructor
  · rintro ⟨⟨account, list⟩, mem, index, bound, rfl⟩
    exact ⟨list[index], list, Dict.find?_eq_some_iff.2 mem, List.getElem?_eq_getElem bound⟩
  · rintro ⟨o, list, found, here⟩
    obtain ⟨bound, -⟩ := List.getElem?_eq_some_iff.1 here
    exact ⟨_, Dict.find?_eq_some_iff.1 found, slot.index, bound, rfl⟩

theorem nodup_slots (m : Obligations) : m.slots.Nodup := by
  refine List.nodup_flatMap.2 ⟨fun entry _ => ?_, m.sorted.imp fun {entry entry'} below => ?_⟩
  · exact List.nodup_range.map fun i j same => congrArg Slot.index same
  · intro slot mem mem'
    obtain ⟨i, -, rfl⟩ := List.mem_map.1 mem
    obtain ⟨j, -, same⟩ := List.mem_map.1 mem'
    exact below.ne (congrArg Slot.account same).symm

theorem perm_slotsOf {m : Obligations} {order : Batch.Order} (perm : order.Perm m.entries) :
    (Batch.slotsOf order).Perm m.slots :=
  perm.flatMap_right _

theorem item?_eq_some_iff {m : Obligations} {slot : Slot} {item : String × Obligation} :
    m.item? slot = some item ↔ slot.account = item.1 ∧ m.at? slot = some item.2 := by
  rw [item?, Option.map_eq_some_iff]
  constructor
  · rintro ⟨o, here, rfl⟩
    exact ⟨rfl, here⟩
  · rintro ⟨account, here⟩
    exact ⟨item.2, here, Prod.ext account rfl⟩

theorem map_item?_slotsOf {m : Obligations} {order : Batch.Order} (perm : order.Perm m.entries) :
    (Batch.slotsOf order).map m.item? = (Batch.items order).map some := by
  unfold Batch.slotsOf Batch.items
  rw [List.map_flatMap, List.map_flatMap]
  refine List.flatMap_congr fun entry mem => ?_
  have found := Dict.find?_eq_some_iff.2 (perm.subset mem)
  refine List.ext_getElem (by simp) fun index bound bound' => ?_
  simp [item?, at?, found]

@[simp] theorem keys_put (m : Obligations) (slot : Slot) (o : Obligation) :
    (m.put slot o).keys = m.keys :=
  Dict.keys_adjust m slot.account _

theorem at?_put_self {m : Obligations} {slot : Slot} {o : Obligation} (o' : Obligation)
    (here : m.at? slot = some o) : (m.put slot o').at? slot = some o' := by
  obtain ⟨list, found, here⟩ := at?_eq_some_iff.1 here
  obtain ⟨bound, -⟩ := List.getElem?_eq_some_iff.1 here
  simp [at?, put, Dict.find?_adjust, found, bound]

theorem at?_put_of_ne {m : Obligations} {slot other : Slot} (o : Obligation)
    (ne : other ≠ slot) : (m.put slot o).at? other = m.at? other := by
  simp only [at?, put, Dict.find?_adjust]
  by_cases account : other.account = slot.account
  · have index : slot.index ≠ other.index := by
      intro index
      cases slot
      cases other
      simp_all
    cases found : m.find? other.account with
    | none => simp [account]
    | some list => simp [account, List.getElem?_set_ne index]
  · simp [account]

theorem related_of_at? {R : String → Obligation → Obligation → Prop} {m m' : Obligations}
    (keys : m'.keys = m.keys)
    (left : ∀ slot o, m.at? slot = some o → ∃ o', m'.at? slot = some o' ∧ R slot.account o o')
    (right : ∀ slot o', m'.at? slot = some o' → ∃ o, m.at? slot = some o) :
    Dict.Related (fun account => List.Forall₂ (R account)) m m' := by
  refine Dict.Related.of_find? keys fun account list list' found found' => ?_
  have at_left (index : Nat) : m.at? ⟨account, index⟩ = list[index]? := by simp [at?, found]
  have at_right (index : Nat) : m'.at? ⟨account, index⟩ = list'[index]? := by simp [at?, found']
  have bounds (index : Nat) : index < list.length ↔ index < list'.length := by
    constructor
    · intro bound
      obtain ⟨o', here, -⟩ :=
        left ⟨account, index⟩ list[index] (by rw [at_left, List.getElem?_eq_getElem bound])
      rw [at_right] at here
      exact (List.getElem?_eq_some_iff.1 here).1
    · intro bound
      obtain ⟨o, here⟩ :=
        right ⟨account, index⟩ list'[index] (by rw [at_right, List.getElem?_eq_getElem bound])
      rw [at_left] at here
      exact (List.getElem?_eq_some_iff.1 here).1
  have length : list.length = list'.length := by
    have le := bounds list'.length
    have ge := bounds list.length
    omega
  refine List.forall₂_of_length_eq_of_get length fun index bound bound' => ?_
  obtain ⟨o', here, related⟩ :=
    left ⟨account, index⟩ list[index] (by rw [at_left, List.getElem?_eq_getElem bound])
  rw [at_right, List.getElem?_eq_getElem bound'] at here
  obtain rfl := Option.some.inj here
  exact related

end Obligations

end CustodySigner
