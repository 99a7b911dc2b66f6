import CustodySigner.Proofs.Json.Member

set_option autoImplicit false
set_option relaxedAutoImplicit false

/-!
Records whose fields may be missing are read tolerantly: the members that are there decide every field,
the others are as at the start, and members of other names do not matter. A known name may come once,
and null is taken only where it stands for what is there at the start.
-/

namespace CustodySigner

namespace Codec

variable {ρ : Type} {c : Codec ρ} {start r : ρ} {names nullable required : List String}
  {name : String}

/-- What is written at a name in the object of a value. -/
def memberAt (c : Codec ρ) (r : ρ) (name : String) : Option Json :=
  match c.encode r with
  | .object members => (members.find? (·.1 == some name)).map (·.2)
  | _ => none

theorem memberAt_codec {fields : List (Record.Field ρ)} (distinct : (fields.map (·.name)).Nodup)
    {f : Record.Field ρ} (hf : f ∈ fields) :
    (Record.codec start fields).memberAt r f.name = f.encode r := by
  have found := Record.find?_members (r := r) distinct hf
  have same : ((fun m : Option String × Json => m.1 == some f.name) ∘
      fun m : String × Json => (some m.1, m.2)) = (·.1 == f.name) := by
    funext m
    simp
  change ((((Record.members fields r).map fun m => (some m.1, m.2)).find? (·.1 == some f.name)).map
    (·.2)) = f.encode r
  rw [List.find?_map, same, found]
  cases f.encode r <;> rfl

/-- The codec of records whose fields, in order, have these names. The required ones may not be missing.
Those that are nullable take null for what they are at the start, and the others refuse it and are
always written. -/
def OfRecord (c : Codec ρ) (start : ρ) (names nullable required : List String) : Prop :=
  ∃ fields : List (Record.Field ρ), c = Record.codec start fields ∧ Record.Lawful start fields ∧
    fields.map (·.name) = names ∧ ∀ f ∈ fields, (f.presence = .required ↔ f.name ∈ required) ∧
      f.Uniform ∧ (f.name ∈ nullable → f.ReadsAs start .null) ∧
      (f.name ∉ nullable → f.RefusesNull ∧ ∀ r, (f.encode r).isSome)

theorem OfRecord.faithful (h : c.OfRecord start names nullable required) : c.Faithful := by
  obtain ⟨fields, rfl, lawful, -⟩ := h
  exact Record.codec_faithful lawful

/-- The value stands for what a record has at a name: it is what is written there, the members of its
objects in any order, or an object of this member alone is read as a record that has the same there. -/
inductive Stands (c : Codec ρ) (r : ρ) (name : String) : Json → Prop
  | written {value j : Json} (here : c.memberAt r name = some value) (reordered : value.Reordered j) :
      Stands c r name j
  | alone {j : Json} {r' : ρ} (read : c.decode (.object [(some name, j)]) = some r')
      (same : c.memberAt r' name = c.memberAt r name) : Stands c r name j

/-- The members describe a record: they have every field in which it differs from the start, and what
they have at a known name stands for the field. They come in any order, among members of other names. -/
structure Describes (c : Codec ρ) (start : ρ) (names : List String) (r : ρ)
    (members : List (Option String × Json)) : Prop where
  named : ∀ m ∈ members, ∃ name, m.1 = some name
  once : members.Pairwise fun m m' => m.1 = m'.1 → ∀ name ∈ names, m.1 ≠ some name
  stands : ∀ m ∈ members, ∀ name ∈ names, m.1 = some name → c.Stands r name m.2
  present : ∀ name ∈ names, c.memberAt r name ≠ c.memberAt start name → ∃ m ∈ members, m.1 = some name

/-- How a record with these field names is read; `nullable` are the names that may come with null. -/
structure Tolerant (c : Codec ρ) (start : ρ) (names nullable : List String) : Prop where
  /-- Members that describe a record are read as it. -/
  reads : ∀ {r members}, c.Describes start names r members → c.decode (.object members) = some r
  /-- Whatever else an object holds, a field that is missing is as at the start. -/
  missing : ∀ {members r}, c.decode (.object members) = some r → ∀ name ∈ names,
    (∀ m ∈ members, m.1 ≠ some name) → c.memberAt r name = c.memberAt start name
  /-- Null does nothing where it is allowed. -/
  nullAbsent : ∀ {before after}, ∀ name ∈ names, name ∈ nullable →
    (∀ m ∈ before ++ after, m.1 ≠ some name) →
    c.decode (.object (before ++ (some name, .null) :: after)) = c.decode (.object (before ++ after))
  /-- Elsewhere it is refused. -/
  nullRefused : ∀ {before after}, ∀ name ∈ names, name ∉ nullable →
    c.decode (.object (before ++ (some name, .null) :: after)) = none
  twice : ∀ {before between after value value'}, ∀ name ∈ names,
    c.decode (.object (before ++ (some name, value) :: (between ++ (some name, value') :: after))) = none
  /-- An array of what stands for the fields, in order, is read as the record. -/
  array : ∀ {r items}, List.Forall₂ (c.Stands r) names items → c.decode (.array items) = some r
  /-- What is written at a name stands for it, and null does where nothing is written. -/
  positional : ∀ r, ∀ name ∈ names, c.Stands r name ((c.memberAt r name).getD .null)
  /-- All this is so for every text of the object or the array. -/
  text : ∀ {j : Json} {text : String}, Json.Spells j text.toList → c.ofText? text = c.decode j

namespace OfRecord

variable {c : Codec ρ} {start r : ρ} {names nullable required : List String}
  {fields : List (Record.Field ρ)} {f : Record.Field ρ} {j : Json}

private theorem readsAs_of_stands (lawful : Record.Lawful start fields) (hf : f ∈ fields)
    (uniform : f.Uniform) (stands : (Record.codec start fields).Stands r f.name j) :
    f.ReadsAs r j := by
  cases stands with
  | written here reordered =>
    rw [memberAt_codec lawful.distinct hf] at here
    exact (lawful.faithful f hf).readsAs here reordered
  | @alone j r' read same =>
    rw [memberAt_codec lawful.distinct hf, memberAt_codec lawful.distinct hf] at same
    -- the object has one member, so its record is what the field makes of the start
    have step : f.decode j start = some r' := by
      rw [Record.decode_object_eq, List.foldlM_cons, Record.readMember_field lawful hf] at read
      cases decoded : f.decode j start with
      | none => simp [decoded] at read
      | some r'' =>
        simp only [List.contains_nil, decoded, Option.map_some] at read
        exact (Record.eq_of_finish read).symm ▸ rfl
    intro acc
    obtain ⟨acc', decoded, back⟩ := uniform step acc
    exact ⟨acc', decoded, back.trans same⟩

theorem decode_eq (h : c.OfRecord start names nullable required)
    {members : List (Option String × Json)} (describes : c.Describes start names r members)
    (enough : ∀ name ∈ required, ∃ m ∈ members, m.1 = some name) :
    c.decode (.object members) = some r := by
  obtain ⟨fields, rfl, lawful, rfl, each⟩ := h
  have known {f : Record.Field ρ} (hf : f ∈ fields) : f.name ∈ fields.map (·.name) :=
    List.mem_map_of_mem hf
  have tells : Record.Tells fields start r members := by
    refine ⟨describes.named, ?once, ?reads, ?missing⟩
    case once =>
      refine describes.once.imp fun {m m'} once f hf here there => ?_
      exact once (here.trans there.symm) f.name (known hf) here
    case reads =>
      intro f hf m mem here
      have stands := describes.stands m mem f.name (known hf) here
      exact readsAs_of_stands lawful hf (each f hf).2.1 stands
    case missing =>
      intro f hf quiet
      constructor
      · by_contra differs
        rw [← memberAt_codec lawful.distinct hf, ← memberAt_codec lawful.distinct hf] at differs
        obtain ⟨m, mem, here⟩ := describes.present f.name (known hf) differs
        exact quiet m mem here
      · intro needed
        obtain ⟨m, mem, here⟩ := enough f.name ((each f hf).1.1 needed)
        exact quiet m mem here
  exact tells.decode_eq lawful

section Members

variable (h : c.OfRecord start names nullable required) {name : String} (mem : name ∈ names)
  {members before between after : List (Option String × Json)} {value value' : Json}
include h mem

theorem memberAt_eq_of_missing (read : c.decode (.object members) = some r)
    (quiet : ∀ m ∈ members, m.1 ≠ some name) : c.memberAt r name = c.memberAt start name := by
  obtain ⟨fields, rfl, lawful, rfl, each⟩ := h
  obtain ⟨f, hf, rfl⟩ := List.mem_map.1 mem
  rw [memberAt_codec lawful.distinct hf, memberAt_codec lawful.distinct hf]
  exact Record.encode_eq_of_missing lawful hf quiet read

theorem decode_null_absent (soft : name ∈ nullable) (optional : name ∉ required)
    (quiet : ∀ m ∈ before ++ after, m.1 ≠ some name) :
    c.decode (.object (before ++ (some name, .null) :: after)) =
      c.decode (.object (before ++ after)) := by
  obtain ⟨fields, rfl, lawful, rfl, each⟩ := h
  obtain ⟨f, hf, rfl⟩ := List.mem_map.1 mem
  obtain ⟨quiet, quiet'⟩ := List.forall_mem_append.1 quiet
  exact Record.decode_object_null_absent lawful hf (fun needed => optional ((each f hf).1.1 needed))
    ((each f hf).2.2.1 soft) quiet quiet'

theorem decode_null_eq_none (solid : name ∉ nullable) :
    c.decode (.object (before ++ (some name, .null) :: after)) = none := by
  obtain ⟨fields, rfl, lawful, rfl, each⟩ := h
  obtain ⟨f, hf, rfl⟩ := List.mem_map.1 mem
  exact Record.decode_object_null lawful hf ((each f hf).2.2.2 solid).1

theorem decode_twice_eq_none :
    c.decode (.object (before ++ (some name, value) :: (between ++ (some name, value') :: after))) =
      none := by
  obtain ⟨fields, rfl, lawful, rfl, each⟩ := h
  obtain ⟨f, hf, rfl⟩ := List.mem_map.1 mem
  exact Record.decode_object_twice lawful hf

end Members

theorem decode_array_eq (h : c.OfRecord start names nullable required) {items : List Json}
    (stand : List.Forall₂ (c.Stands r) names items) : c.decode (.array items) = some r := by
  obtain ⟨fields, rfl, lawful, rfl, each⟩ := h
  have stand := List.forall₂_map_left_iff.1 stand
  refine Record.decode_array_eq lawful (List.forall₂_iff_zip.2 ⟨stand.length_eq, ?_⟩)
  intro f item mem
  have hf := (List.of_mem_zip mem).1
  exact readsAs_of_stands lawful hf (each f hf).2.1 (List.forall₂_iff_zip.1 stand |>.2 mem)

theorem stands_memberAt (h : c.OfRecord start names nullable []) (r : ρ) {name : String}
    (mem : name ∈ names) : c.Stands r name ((c.memberAt r name).getD .null) := by
  have empty : c.decode (.object []) = some start :=
    h.decode_eq ⟨nofun, .nil, nofun, fun _ _ differs => absurd rfl differs⟩ nofun
  have quiet : ∀ m ∈ ([] ++ [] : List (Option String × Json)), m.1 ≠ some name := nofun
  have null (soft : name ∈ nullable) : c.decode (.object [(some name, .null)]) = some start :=
    (h.decode_null_absent mem soft List.not_mem_nil quiet).trans empty
  obtain ⟨fields, rfl, lawful, rfl, each⟩ := h
  obtain ⟨f, hf, rfl⟩ := List.mem_map.1 mem
  have here (r : ρ) : (Record.codec start fields).memberAt r f.name = f.encode r :=
    memberAt_codec lawful.distinct hf
  cases written : f.encode r with
  | some value =>
    rw [here, written]
    exact .written ((here r).trans written) ((lawful.faithful f hf).plain written).reordered_refl
  | none =>
    -- a field that is left out takes null, and then the record is the one at the start
    have soft : f.name ∈ nullable := by
      by_contra solid
      have always := ((each f hf).2.2.2 solid).2 r
      rw [written] at always
      exact nomatch always
    rw [here, written]
    refine .alone (null soft) ?_
    rw [here, here, written]
    exact ((lawful.faithful f hf).absent written).1

theorem tolerant (h : c.OfRecord start names nullable []) : c.Tolerant start names nullable where
  reads describes := h.decode_eq describes nofun
  missing read _ mem quiet := h.memberAt_eq_of_missing mem read quiet
  nullAbsent _ mem soft quiet := h.decode_null_absent mem soft List.not_mem_nil quiet
  nullRefused _ mem solid := h.decode_null_eq_none mem solid
  twice _ mem := h.decode_twice_eq_none mem
  array stand := h.decode_array_eq stand
  positional r _ mem := h.stands_memberAt r mem
  text spells := by rw [ofText?, spells.parse_eq, Option.bind_some]

end OfRecord

end Codec

end CustodySigner
