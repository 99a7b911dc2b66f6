import CustodySigner.Json.Codec
import CustodySigner.Proofs.Dict
import CustodySigner.Proofs.Json.ReadBack
import Mathlib.Data.List.Perm.Basic

set_option autoImplicit false
set_option relaxedAutoImplicit false

/-!
Codecs that give back what they write. The order of members does not count, at any depth, and so the
codecs of maps, lists and optional values are faithful when those of their parts are.
-/

namespace CustodySigner

namespace Json

/-- The second value is the first with the members of its objects in some other order. -/
inductive Reordered : Json → Json → Prop
  | null : Reordered .null .null
  | bool (value : Bool) : Reordered (.bool value) (.bool value)
  | natural (value : Nat) : Reordered (.natural value) (.natural value)
  | text (value : String) : Reordered (.ofText value) (.ofText value)
  | array {items items' : List Json} (each : List.Forall₂ Reordered items items') :
      Reordered (.array items) (.array items')
  | object {members aligned members' : List (Option String × Json)}
      (names : members.map (·.1) = aligned.map (·.1))
      (each : List.Forall₂ Reordered (members.map (·.2)) (aligned.map (·.2)))
      (order : aligned.Perm members') : Reordered (.object members) (.object members')

private theorem forall₂_of_names {members aligned : List (Option String × Json)}
    (names : members.map (·.1) = aligned.map (·.1))
    (each : List.Forall₂ Reordered (members.map (·.2)) (aligned.map (·.2))) :
    List.Forall₂ (fun m m' => m'.1 = m.1 ∧ Reordered m.2 m'.2) members aligned := by
  induction members generalizing aligned with
  | nil =>
    cases aligned with
    | nil => exact .nil
    | cons m' rest => cases each
  | cons m members ih =>
    cases aligned with
    | nil => cases each
    | cons m' rest =>
      obtain ⟨same, names⟩ := List.cons.inj names
      cases each with
      | cons head each => exact .cons ⟨same.symm, head⟩ (ih names each)

theorem Reordered.exists_order {ι : Type} {member : ι → Option String × Json} {l : List ι}
    {j : Json} (h : Reordered (.object (l.map member)) j) :
    ∃ l' members', j = .object members' ∧ l.Perm l' ∧
      List.Forall₂ (fun i m' => m'.1 = (member i).1 ∧ Reordered (member i).2 m'.2) l' members' := by
  cases h with
  | @object _ aligned members' names each order =>
    have written := List.forall₂_map_left_iff.1 (forall₂_of_names names each)
    have both : Relation.Comp (List.Forall₂ fun i m' => m'.1 = (member i).1 ∧
        Reordered (member i).2 m'.2) List.Perm l members' := ⟨aligned, written, order⟩
    rw [List.forall₂_comp_perm_eq_perm_comp_forall₂] at both
    obtain ⟨l', shuffled, read⟩ := both
    exact ⟨l', members', rfl, shuffled, read⟩

theorem Plain.reordered_refl {j : Json} (plain : j.Plain) : j.Reordered j := by
  induction plain with
  | null => exact .null
  | bool value => exact .bool value
  | natural value => exact .natural value
  | text value => exact .text value
  | array _ each => exact .array (List.forall₂_same.2 each)
  | object _ _ each =>
    refine .object rfl (List.forall₂_same.2 fun value mem => ?_) (.refl _)
    obtain ⟨m, written, rfl⟩ := List.mem_map.1 mem
    exact each m written

theorem reordered_of_perm {members members' : List (Option String × Json)}
    (plain : (object members).Plain) (order : members.Perm members') :
    (object members).Reordered (.object members') := by
  cases plain with
  | object _ each =>
    refine .object rfl (List.forall₂_same.2 fun value mem => ?_) order
    obtain ⟨m, written, rfl⟩ := List.mem_map.1 mem
    exact (each m written).reordered_refl

theorem Plain.of_reordered {j j' : Json} (plain : j.Plain) (h : j.Reordered j') : j'.Plain := by
  induction plain generalizing j' with
  | null => cases h with | null => exact .null
  | bool value => cases h with | bool => exact .bool value
  | natural value => cases h with | natural => exact .natural value
  | text value => cases h with | text => exact .text value
  | array _ ih =>
    cases h with
    | array each =>
      refine .array fun item' mem => ?_
      obtain ⟨item, mem, related⟩ := exists_of_mem_right_forall₂ each mem
      exact ih item mem related
  | @object members named _ ih =>
    cases h with
    | @object _ aligned _ names each order =>
      have pairs := forall₂_of_names names each
      refine .object (fun m' mem => ?_) (fun m' mem => ?_)
      · obtain ⟨m, mem, same, -⟩ := exists_of_mem_right_forall₂ pairs (order.mem_iff.2 mem)
        obtain ⟨name, text⟩ := named m mem
        exact ⟨name, same.trans text⟩
      · obtain ⟨m, mem, -, related⟩ := exists_of_mem_right_forall₂ pairs (order.mem_iff.2 mem)
        exact ih m mem related

end Json

namespace Codec

variable {α : Type} {c : Codec α}

/-- What is written is plain, and gives the value back with its members in any order. -/
structure Faithful (c : Codec α) : Prop where
  plain : ∀ x, (c.encode x).Plain
  decode_eq : ∀ {x j}, (c.encode x).Reordered j → c.decode j = some x

namespace Faithful

theorem decode_encode (h : c.Faithful) (x : α) : c.decode (c.encode x) = some x :=
  h.decode_eq (h.plain x).reordered_refl

theorem encode_injective (h : c.Faithful) : Function.Injective c.encode := by
  intro x y same
  have read := h.decode_encode x
  rw [same, h.decode_encode y] at read
  exact (Option.some.inj read).symm

@[simp] theorem bool : Codec.bool.Faithful where
  plain := .bool
  decode_eq h := by cases h with | bool value => rfl

@[simp] theorem string : Codec.string.Faithful where
  plain := .text
  decode_eq h := by cases h with | text value => rfl

@[simp] theorem uint32 : Codec.uint32.Faithful where
  plain n := .natural n.toNat
  decode_eq {n j} h := by
    cases h with
    | natural =>
      change (if n.toNat < 0x100000000 then some (UInt32.ofNat n.toNat) else none) = some n
      rw [if_pos n.toNat_lt, UInt32.ofNat_toNat]

@[simp] theorem uint64 : Codec.uint64.Faithful where
  plain n := .natural n.toNat
  decode_eq {n j} h := by
    cases h with
    | natural =>
      change (if n.toNat < 0x10000000000000000 then some (UInt64.ofNat n.toNat) else none) = some n
      rw [if_pos n.toNat_lt, UInt64.ofNat_toNat]

theorem encode_inj (h : c.Faithful) {x y : α} : c.encode x = c.encode y ↔ x = y :=
  h.encode_injective.eq_iff

theorem named {name : α → String} {ofName? : String → Option α}
    (h : ∀ x, ofName? (name x) = some x) : (Codec.named name ofName?).Faithful where
  plain x := .text (name x)
  decode_eq {x j} written := by
    cases written with
    | text => exact h x

private theorem mapM_decode (h : c.Faithful) {values : List α} {items : List Json}
    (written : List.Forall₂ Json.Reordered (values.map c.encode) items) :
    items.mapM c.decode = some values := by
  induction values generalizing items with
  | nil => cases written with | nil => rfl
  | cons value values ih =>
    cases written with
    | cons first rest =>
      rw [List.mapM_cons, h.decode_eq first, ih rest]
      rfl

@[simp] theorem list (h : c.Faithful) : c.list.Faithful where
  plain values := by
    refine .array fun item mem => ?_
    obtain ⟨value, -, rfl⟩ := List.mem_map.1 mem
    exact h.plain value
  decode_eq {values j} written := by
    cases written with
    | array each => exact mapM_decode h each

private theorem entries?_eq (h : c.Faithful) {entries : List (String × α)}
    {members : List (Option String × Json)}
    (written : List.Forall₂ (fun entry m => m.1 = some entry.1 ∧ (c.encode entry.2).Reordered m.2)
      entries members) : entries? c members = some entries := by
  induction written with
  | nil => rfl
  | @cons entry m entries members first _ ih =>
    obtain ⟨name, value⟩ := m
    obtain ⟨rfl, first⟩ : name = some entry.1 ∧ (c.encode entry.2).Reordered value := first
    rw [entries?, h.decode_eq first, ih]
    rfl

@[simp] theorem dict (h : c.Faithful) : c.dict.Faithful where
  plain d := by
    refine .object (fun m mem => ?named) (fun m mem => ?plain)
    case named =>
      obtain ⟨member, -, rfl⟩ := List.mem_map.1 mem
      exact ⟨member.1, rfl⟩
    case plain =>
      obtain ⟨member, listed, rfl⟩ := List.mem_map.1 mem
      obtain ⟨entry, -, rfl⟩ := List.mem_map.1 listed
      exact h.plain entry.2
  decode_eq {d j} written := by
    have same : c.dict.encode d =
        .object (d.entries.map fun entry => (some entry.1, c.encode entry.2)) := by
      simp [Codec.dict, Json.ofMembers, Function.comp_def]
    rw [same] at written
    obtain ⟨entries, members, rfl, order, each⟩ := written.exists_order
    change (entries? c members).map Dict.ofList = some d
    rw [entries?_eq h each, Option.map_some, Dict.ofList_eq_of_perm order]

theorem reordered_dict (h : c.Faithful) {d : Dict α} {entries : List (String × α)}
    (order : d.entries.Perm entries) : (c.dict.encode d).Reordered
      (.ofMembers (entries.map fun (key, value) => (key, c.encode value))) :=
  Json.reordered_of_perm (h.dict.plain d) ((order.map _).map _)

end Faithful

/-- Null is not how a value is written, so it may stand for the absence of one. -/
def NeverNull (c : Codec α) : Prop :=
  ∀ {x j}, (c.encode x).Reordered j → j ≠ .null

namespace Faithful

@[simp] theorem nullAs (h : c.Faithful) (solid : c.NeverNull) (value : α) :
    (c.nullAs value).Faithful where
  plain := h.plain
  decode_eq {x j} written := by
    have read := h.decode_eq written
    have other := solid written
    cases j with
    | null => exact absurd rfl other
    | _ => exact read

@[simp] theorem option (h : c.Faithful) (solid : c.NeverNull) : c.option.Faithful where
  plain
    | none => .null
    | some value => h.plain value
  decode_eq {x j} written := by
    cases x with
    | none => cases written with | null => rfl
    | some value =>
      have read := h.decode_eq written
      have other := solid written
      cases j with
      | null => exact absurd rfl other
      | _ => exact congrArg (Option.map some) read

end Faithful

@[simp] theorem neverNull_string : Codec.string.NeverNull := by
  intro x j written
  cases written with | text => exact nofun

@[simp] theorem neverNull_list (c : Codec α) : c.list.NeverNull := by
  intro x j written
  cases written with | array => exact nofun

@[simp] theorem neverNull_dict (c : Codec α) : c.dict.NeverNull := by
  intro x j written
  cases written with | object => exact nofun

theorem Faithful.ofText?_eq (h : c.Faithful) {x : α} {j : Json} {text : String}
    (written : (c.encode x).Reordered j) (spells : Json.Spells j text.toList) :
    c.ofText? text = some x := by
  rw [ofText?, spells.parse_eq, Option.bind_some, h.decode_eq written]

theorem Faithful.ofText?_compact (h : c.Faithful) {x : α} {j : Json}
    (written : (c.encode x).Reordered j) : c.ofText? j.compact = some x :=
  h.ofText?_eq written ((h.plain x).of_reordered written).spells_compact

theorem Faithful.ofText?_pretty (h : c.Faithful) {x : α} {j : Json}
    (written : (c.encode x).Reordered j) : c.ofText? j.pretty = some x :=
  h.ofText?_eq written ((h.plain x).of_reordered written).spells_pretty

end Codec

end CustodySigner
