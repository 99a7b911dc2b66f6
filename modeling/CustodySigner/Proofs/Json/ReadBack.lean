import CustodySigner.Proofs.Json.Grammar
import CustodySigner.Proofs.Json.Layout

set_option autoImplicit false
set_option relaxedAutoImplicit false

/-!
What is written of a value in either layout is one of its texts, and so it is read back.
-/

namespace CustodySigner.Json

/-- Values whose texts are read back: the numbers are natural, and strings and names are texts. -/
inductive Plain : Json → Prop
  | null : Plain .null
  | bool (value : Bool) : Plain (.bool value)
  | natural (value : Nat) : Plain (.natural value)
  | text (value : String) : Plain (.ofText value)
  | array {items : List Json} (each : ∀ item ∈ items, Plain item) : Plain (.array items)
  | object {members : List (Option String × Json)} (named : ∀ m ∈ members, ∃ name, m.1 = some name)
      (each : ∀ m ∈ members, Plain m.2) : Plain (.object members)

section Shapes

attribute [simp] Plain.null Plain.bool Plain.natural Plain.text

@[simp] theorem plain_array_iff {items : List Json} :
    (array items).Plain ↔ ∀ item ∈ items, item.Plain := by
  constructor
  · intro plain
    cases plain with | array each => exact each
  · exact .array

@[simp] theorem plain_object_iff {members : List (Option String × Json)} :
    (object members).Plain ↔
      (∀ m ∈ members, ∃ name, m.1 = some name) ∧ ∀ m ∈ members, m.2.Plain := by
  constructor
  · intro plain
    cases plain with | object named each => exact ⟨named, each⟩
  · exact fun h => .object h.1 h.2

end Shapes

variable {L : Layout} {level : Nat}

theorem Layout.writeItems_eq (items : List Json) :
    L.writeItems level items = items.flatMap fun item => ',' :: (L.gap level ++ L.write level item) := by
  induction items with
  | nil => rfl
  | cons item items ih => simp [Layout.writeItems, ih]

theorem Layout.writeMembers_eq (members : List (Option String × Json)) :
    L.writeMembers level members =
      members.flatMap fun m => ',' :: (L.gap level ++ L.writeMember level m) := by
  induction members with
  | nil => rfl
  | cons m members ih => simp [Layout.writeMembers, ih]

theorem Spells.gap {j : Json} {cs : List Char} (spells : Spells j cs) :
    Spells j (L.gap level ++ cs) := by
  have padded := spells.blanks (L.blank_gap level) blanks_nil
  rwa [List.append_nil] at padded

/-- A member as the layout spells it. -/
private def spelledMember (L : Layout) (level : Nat) (m : Option String × Json) : SpelledMember where
  name := m.1
  before := L.gap level
  quoted := writeString m.1
  after := []
  value := m.2
  text := L.space ++ L.write level m.2

private theorem spelling_spelledMember (m : Option String × Json) :
    (spelledMember L level m).spelling = L.gap level ++ L.writeMember level m := by
  simp [spelledMember, SpelledMember.spelling, Layout.writeMember_eq]

private theorem named_spelledMember {m : Option String × Json} (named : ∃ name, m.1 = some name) :
    (spelledMember L level m).Named := by
  obtain ⟨name, value⟩ := m
  obtain ⟨text, rfl⟩ : ∃ text, name = some text := named
  exact ⟨L.blank_gap level, quoted_writeString text, blanks_nil⟩

theorem Plain.spells {j : Json} (plain : j.Plain) (L : Layout) (level : Nat) :
    Spells j (L.write level j) := by
  induction plain generalizing level with
  | null => exact .null
  | bool value =>
    cases value with
    | false => exact .no
    | true => exact .yes
  | natural n => exact .numeral (numeral_writeNatural n)
  | text value => exact .quoted (quoted_writeString value)
  | @array items _ ih =>
    cases items with
    | nil => exact .emptyArray blanks_nil
    | cons first more =>
      let part (item : Json) : Json × List Char :=
        (item, L.gap (level + 1) ++ L.write (level + 1) item)
      have each : ∀ p ∈ part first :: more.map part, Spells p.1 p.2 := by
        rw [← List.map_cons]
        intro p mem
        obtain ⟨item, listed, rfl⟩ := List.mem_map.1 mem
        exact (ih item listed (level + 1)).gap
      have spelled := Spells.array each (L.blank_gap level)
      simpa [part, List.flatMap_map, Layout.write, Layout.writeItems_eq, Function.comp_def]
        using spelled
  | @object members named _ ih =>
    cases members with
    | nil => exact .emptyObject blanks_nil
    | cons first more =>
      let part := spelledMember L (level + 1)
      have labels : ∀ m ∈ part first :: more.map part, m.Named := by
        rw [← List.map_cons]
        intro m' mem
        obtain ⟨m, listed, rfl⟩ := List.mem_map.1 mem
        exact named_spelledMember (named m listed)
      have each : ∀ m ∈ part first :: more.map part, Spells m.value m.text := by
        rw [← List.map_cons]
        intro m' mem
        obtain ⟨m, listed, rfl⟩ := List.mem_map.1 mem
        have padded := (ih m listed (level + 1)).blanks L.blank_space blanks_nil
        rwa [List.append_nil] at padded
      have spelled := Spells.object labels each (L.blank_gap level)
      have whole : (part first :: more.map part).map (fun m => (m.name, m.value)) = first :: more := by
        rw [← List.map_cons, List.map_map]
        exact List.map_id _
      rw [whole] at spelled
      simpa [part, spelling_spelledMember, List.flatMap_map, Layout.write, Layout.writeMembers_eq]
        using spelled

theorem Plain.spells_compact {j : Json} (plain : j.Plain) : Spells j j.compact.toList := by
  have spelled := plain.spells .compact 0
  rwa [Layout.write_compact, ← String.toList_ofList (l := write j)] at spelled

theorem Plain.spells_pretty {j : Json} (plain : j.Plain) : Spells j j.pretty.toList := by
  have spelled := plain.spells .pretty 0
  rwa [Layout.write_pretty, ← String.toList_ofList (l := writePretty 0 j)] at spelled

end CustodySigner.Json
