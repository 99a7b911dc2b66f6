import CustodySigner.Proofs.Json.Faithful
import Mathlib.Data.List.Nodup
import Mathlib.Data.List.Pairwise

set_option autoImplicit false
set_option relaxedAutoImplicit false

/-!
Records are read from members that tell what they are: each field that is not as at the start by one
member, in any order and among members of other names. While a record is read, the members to come
say what is not settled yet. What is written of a record tells it.
-/

namespace CustodySigner

namespace Record

variable {ρ α : Type} {start r : ρ} {fields : List (Field ρ)}

/-- What a field writes of a record is plain and reads back into any record; a field that writes
nothing may be missing and is not set at the start. -/
structure Field.Faithful (f : Field ρ) (start : ρ) : Prop where
  plain : ∀ {r value}, f.encode r = some value → value.Plain
  exists_decode : ∀ {r value j} (acc : ρ), f.encode r = some value → value.Reordered j →
    ∃ acc', f.decode j acc = some acc' ∧ f.encode acc' = some value
  absent : ∀ {r}, f.encode r = none → f.encode start = none ∧ f.presence ≠ .required

/-- Reading the first field leaves the second one as it is. -/
def Field.Keeps (f g : Field ρ) : Prop :=
  ∀ j r r', f.decode j r = some r' → g.encode r' = g.encode r

section Fields

variable {name : String} {c : Codec α} {presence : Presence}

@[simp] theorem name_field {get : ρ → α} {set : α → ρ → ρ} :
    (field name c get set presence).name = name := rfl

@[simp] theorem name_optionField {get : ρ → Option α} {set : Option α → ρ → ρ} :
    (optionField name c get set).name = name := rfl

@[simp] theorem encode_field {get : ρ → α} {set : α → ρ → ρ} :
    (field name c get set presence).encode r = some (c.encode (get r)) := rfl

@[simp] theorem encode_optionField {get : ρ → Option α} {set : Option α → ρ → ρ} :
    (optionField name c get set).encode r = (get r).map c.encode := rfl

@[simp] theorem field_faithful {get : ρ → α} {set : α → ρ → ρ} (h : c.Faithful)
    (get_set : ∀ v r, get (set v r) = v) (start : ρ) :
    (field name c get set presence).Faithful start where
  plain {r value} written := by
    obtain rfl : c.encode (get r) = value := Option.some.inj written
    exact h.plain (get r)
  exists_decode {r value j} acc written reordered := by
    obtain rfl : c.encode (get r) = value := Option.some.inj written
    refine ⟨set (get r) acc, ?_, ?_⟩
    · exact congrArg (Option.map fun v => set v acc) (h.decode_eq reordered)
    · exact congrArg (fun v => some (c.encode v)) (get_set (get r) acc)
  absent written := nomatch written

@[simp] theorem optionField_faithful {get : ρ → Option α} {set : Option α → ρ → ρ}
    (h : c.option.Faithful) (get_set : ∀ v r, get (set v r) = v) (unset : get start = none) :
    (optionField name c get set).Faithful start where
  plain {r value} written := by
    obtain ⟨v, -, rfl⟩ := Option.map_eq_some_iff.1 written
    exact h.plain (some v)
  exists_decode {r value j} acc written reordered := by
    obtain ⟨v, -, rfl⟩ := Option.map_eq_some_iff.1 written
    have decoded : c.option.decode j = some (some v) := h.decode_eq reordered
    refine ⟨set (some v) acc, ?_, ?_⟩
    · exact congrArg (Option.map fun v => set v acc) decoded
    · exact congrArg (Option.map c.encode) (get_set (some v) acc)
  absent _ := ⟨congrArg (Option.map c.encode) unset, nofun⟩

@[simp] theorem field_keeps_iff {get : ρ → α} {set : α → ρ → ρ} {g : Field ρ} :
    (field name c get set presence).Keeps g ↔
      ∀ j v r, c.decode j = some v → g.encode (set v r) = g.encode r := by
  constructor
  · intro keeps j v r read
    exact keeps j r (set v r) (congrArg (Option.map fun v => set v r) read)
  · intro h j r r' read
    obtain ⟨v, decoded, rfl⟩ := Option.map_eq_some_iff.1 read
    exact h j v r decoded

@[simp] theorem optionField_keeps_iff {get : ρ → Option α} {set : Option α → ρ → ρ} {g : Field ρ} :
    (optionField name c get set).Keeps g ↔
      ∀ j v r, c.option.decode j = some v → g.encode (set v r) = g.encode r := by
  have whole : (field name c.option get set).Keeps g ↔ _ := field_keeps_iff
  exact whole

end Fields

/-- The fields say everything about a record, each has its own name, and none touches another. -/
structure Lawful (start : ρ) (fields : List (Field ρ)) : Prop where
  distinct : (fields.map (·.name)).Nodup
  faithful : ∀ f ∈ fields, f.Faithful start
  apart : fields.Pairwise fun f g => f.Keeps g ∧ g.Keeps f
  complete : ∀ r r', (∀ f ∈ fields, f.encode r = f.encode r') → r = r'

namespace Lawful

theorem keeps (h : Lawful start fields) {f g : Field ρ} (hf : f ∈ fields) (hg : g ∈ fields)
    (other : f.name ≠ g.name) : f.Keeps g := by
  have symm : Std.Symm fun f g : Field ρ => f.Keeps g ∧ g.Keeps f := ⟨fun _ _ keeps => keeps.symm⟩
  have both : f ≠ g → f.Keeps g ∧ g.Keeps f := h.apart.forall hf hg
  have different : f ≠ g := fun same => other (congrArg _ same)
  exact (both different).1

theorem eq_of_name (h : Lawful start fields) {f g : Field ρ} (hf : f ∈ fields) (hg : g ∈ fields)
    (same : f.name = g.name) : f = g :=
  List.inj_on_of_nodup_map h.distinct hf hg same

theorem find?_eq (h : Lawful start fields) {f : Field ρ} (hf : f ∈ fields) :
    fields.find? (·.name == f.name) = some f := by
  cases found : fields.find? (·.name == f.name) with
  | none =>
    have missed := List.find?_eq_none.1 found f hf
    exact absurd (beq_self_eq_true _) missed
  | some g =>
    have same : g.name = f.name := by simpa using List.find?_some found
    rw [h.eq_of_name (List.mem_of_find?_eq_some found) hf same]

end Lawful

theorem mem_members {m : String × Json} :
    m ∈ members fields r ↔ ∃ f ∈ fields, f.encode r = some m.2 ∧ f.name = m.1 := by
  obtain ⟨name, value⟩ := m
  simp [members, List.mem_filterMap]

/-- The field takes the value for what the record has there, whatever record it is read into. -/
def Field.ReadsAs (f : Field ρ) (r : ρ) (j : Json) : Prop :=
  ∀ acc, ∃ acc', f.decode j acc = some acc' ∧ f.encode acc' = f.encode r

theorem Field.Faithful.readsAs {f : Field ρ} (h : f.Faithful start) {value j : Json}
    (written : f.encode r = some value) (reordered : value.Reordered j) : f.ReadsAs r j := by
  intro acc
  obtain ⟨acc', read, back⟩ := h.exists_decode acc written reordered
  exact ⟨acc', read, back.trans written.symm⟩

/-- The members say what the record is, wherever it is not as at the start: each name of a field
comes at most once, and other names do not matter. -/
structure Tells (fields : List (Field ρ)) (start r : ρ) (members : List (Option String × Json)) :
    Prop where
  named : ∀ m ∈ members, ∃ name, m.1 = some name
  once : members.Pairwise fun m m' => ∀ f ∈ fields, m.1 = some f.name → m'.1 ≠ some f.name
  reads : ∀ f ∈ fields, ∀ m ∈ members, m.1 = some f.name → f.ReadsAs r m.2
  missing : ∀ f ∈ fields, (∀ m ∈ members, m.1 ≠ some f.name) →
    f.encode r = f.encode start ∧ f.presence ≠ .required

/-- A record that is being read: the members to come say what is not settled yet. -/
structure Reading (fields : List (Field ρ)) (r : ρ) (pending : List (Option String × Json))
    (seen : List String) (acc : ρ) : Prop where
  named : ∀ m ∈ pending, ∃ name, m.1 = some name
  once : pending.Pairwise fun m m' => ∀ f ∈ fields, m.1 = some f.name → m'.1 ≠ some f.name
  reads : ∀ f ∈ fields, ∀ m ∈ pending, m.1 = some f.name → f.ReadsAs r m.2
  unseen : ∀ f ∈ fields, ∀ m ∈ pending, m.1 = some f.name → f.name ∉ seen
  settled : ∀ f ∈ fields, (∀ m ∈ pending, m.1 ≠ some f.name) → f.encode acc = f.encode r
  needed : ∀ f ∈ fields, f.presence = .required →
    f.name ∈ seen ∨ ∃ m ∈ pending, m.1 = some f.name

theorem Tells.reading {members : List (Option String × Json)} (h : Tells fields start r members) :
    Reading fields r members [] start where
  named := h.named
  once := h.once
  reads := h.reads
  unseen _ _ _ _ _ := List.not_mem_nil
  settled f hf quiet := (h.missing f hf quiet).1.symm
  needed f hf required := by
    refine .inr ?_
    by_contra quiet
    exact (h.missing f hf fun m mem same => quiet ⟨m, mem, same⟩).2 required

variable {pending : List (Option String × Json)} {seen : List String} {acc : ρ}

theorem Reading.pass {m : Option String × Json} (reading : Reading fields r (m :: pending) seen acc)
    (unknown : ∀ f ∈ fields, m.1 ≠ some f.name) : Reading fields r pending seen acc where
  named m' mem := reading.named m' (List.mem_cons_of_mem m mem)
  once := (List.pairwise_cons.1 reading.once).2
  reads f hf m' mem := reading.reads f hf m' (List.mem_cons_of_mem m mem)
  unseen f hf m' mem := reading.unseen f hf m' (List.mem_cons_of_mem m mem)
  settled f hf quiet := reading.settled f hf (List.forall_mem_cons.2 ⟨unknown f hf, quiet⟩)
  needed f hf required := by
    refine (reading.needed f hf required).imp_right ?_
    rintro ⟨m', mem, same⟩
    rcases List.mem_cons.1 mem with rfl | mem
    · exact absurd same (unknown f hf)
    · exact ⟨m', mem, same⟩

/-- A member that names a field settles it. -/
theorem Reading.step (h : Lawful start fields) {f : Field ρ} (hf : f ∈ fields) {j : Json}
    (reading : Reading fields r ((some f.name, j) :: pending) seen acc) :
    ∃ acc', f.decode j acc = some acc' ∧ Reading fields r pending (f.name :: seen) acc' := by
  obtain ⟨acc', read, back⟩ := reading.reads f hf _ List.mem_cons_self rfl acc
  obtain ⟨alone, once⟩ := List.pairwise_cons.1 reading.once
  refine ⟨acc', read, fun m mem => reading.named m (List.mem_cons_of_mem _ mem), once,
    fun g hg m mem => reading.reads g hg m (List.mem_cons_of_mem _ mem), ?_, ?_, ?_⟩
  · intro g hg m mem same again
    rcases List.mem_cons.1 again with name | again
    · exact alone m mem f hf rfl (same.trans (congrArg some name))
    · exact reading.unseen g hg m (List.mem_cons_of_mem _ mem) same again
  · intro g hg quiet
    -- a field that is settled now is the one that was read, or it was settled before
    by_cases same : g.name = f.name
    · obtain rfl : g = f := h.eq_of_name hg hf same
      exact back
    · rw [h.keeps hf hg (Ne.symm same) j acc acc' read]
      refine reading.settled g hg (List.forall_mem_cons.2 ⟨fun eq => same ?_, quiet⟩)
      exact (Option.some.inj eq).symm
  · intro g hg required
    rcases reading.needed g hg required with mem | ⟨m, mem, same⟩
    · exact .inl (List.mem_cons_of_mem _ mem)
    · rcases List.mem_cons.1 mem with rfl | mem
      · exact .inl ((Option.some.inj same) ▸ List.mem_cons_self)
      · exact .inr ⟨m, mem, same⟩

theorem find?_eq_none_iff {name : String} :
    fields.find? (·.name == name) = none ↔ ∀ f ∈ fields, some name ≠ some f.name := by
  rw [List.find?_eq_none]
  refine forall₂_congr fun f _ => not_congr ?_
  rw [beq_iff_eq, Option.some_inj, eq_comm]

/-- After the last member the record is the one that they told. -/
theorem Reading.run (h : Lawful start fields) (reading : Reading fields r pending seen acc) :
    readMembers fields pending seen acc = some r := by
  induction pending generalizing seen acc with
  | nil =>
    have all : (fields.all fun f => f.presence ≠ .required || seen.contains f.name) = true := by
      refine List.all_eq_true.2 fun f hf => ?_
      by_cases required : f.presence = .required
      · have mem : f.name ∈ seen := by simpa using reading.needed f hf required
        simp [required, mem]
      · simp [required]
    have same : acc = r := h.complete acc r fun f hf =>
      reading.settled f hf (List.forall_mem_nil _)
    rw [readMembers, if_pos all, same]
  | cons m pending ih =>
    obtain ⟨name, value⟩ := m
    obtain ⟨text, same⟩ := reading.named _ List.mem_cons_self
    obtain rfl : name = some text := same
    cases found : fields.find? (·.name == text) with
    | none =>
      simp only [readMembers, found]
      exact ih (reading.pass (find?_eq_none_iff.1 found))
    | some f =>
      have hf := List.mem_of_find?_eq_some found
      obtain rfl : f.name = text := by simpa using List.find?_some found
      obtain ⟨acc', read, reading'⟩ := reading.step h hf
      have fresh : seen.contains f.name = false := by
        simpa using reading.unseen f hf _ List.mem_cons_self rfl
      simp only [readMembers, found, fresh, read, Bool.false_eq_true, if_false]
      exact ih reading'

theorem Tells.decode_eq (h : Lawful start fields) {members : List (Option String × Json)}
    (tells : Tells fields start r members) : (codec start fields).decode (.object members) = some r :=
  tells.reading.run h

theorem tells_members (h : Lawful start fields) {pending : List (String × Json)}
    {members' : List (Option String × Json)} (order : (members fields r).Perm pending)
    (each : List.Forall₂ (fun m m' => m'.1 = some m.1 ∧ m.2.Reordered m'.2) pending members') :
    Tells fields start r members' where
  named m' mem := by
    obtain ⟨m, -, same, -⟩ := exists_of_mem_right_forall₂ each mem
    exact ⟨m.1, same⟩
  once := by
    have names : fields.Pairwise fun f g => f.name ≠ g.name := List.pairwise_map.1 h.distinct
    have written : (members fields r).Pairwise fun m m' => m.1 ≠ m'.1 := by
      refine List.pairwise_filterMap.2 (names.imp ?_)
      intro f g other m written m' written'
      obtain ⟨value, -, rfl⟩ := Option.map_eq_some_iff.1 written
      obtain ⟨value', -, rfl⟩ := Option.map_eq_some_iff.1 written'
      exact other
    have distinct : (pending.map (·.1)).Nodup :=
      (order.map _).nodup_iff.1 (List.pairwise_map.2 written)
    have same : members'.map (·.1) = (pending.map (·.1)).map some := by
      clear order distinct
      induction each with
      | nil => rfl
      | cons first _ ih => simp [first.1, ih]
    have apart : (members'.map (·.1)).Nodup := by
      rw [same]
      exact distinct.map fun a b => Option.some.inj
    refine (List.pairwise_map.1 apart).imp ?_
    intro m m' other f _ here there
    exact other (here.trans there.symm)
  reads f hf m' mem here := by
    obtain ⟨m, mem, same, reordered⟩ := exists_of_mem_right_forall₂ each mem
    obtain ⟨g, hg, written, named⟩ := mem_members.1 (order.mem_iff.2 mem)
    obtain rfl : g = f := by
      refine h.eq_of_name hg hf (named.trans ?_)
      exact Option.some.inj (same.symm.trans here)
    exact (h.faithful g hg).readsAs written reordered
  missing f hf quiet := by
    cases written : f.encode r with
    | none => exact ⟨((h.faithful f hf).absent written).1.symm, ((h.faithful f hf).absent written).2⟩
    | some value =>
      have mem : (f.name, value) ∈ members fields r := mem_members.2 ⟨f, hf, written, rfl⟩
      obtain ⟨m', mem', same, -⟩ := exists_of_mem_forall₂ each (order.mem_iff.1 mem)
      exact absurd same (quiet m' mem')

theorem codec_faithful (h : Lawful start fields) : (codec start fields).Faithful where
  plain r := by
    refine .object (fun m mem => ?named) (fun m mem => ?plain)
    case named =>
      obtain ⟨member, -, rfl⟩ := List.mem_map.1 mem
      exact ⟨member.1, rfl⟩
    case plain =>
      obtain ⟨member, listed, rfl⟩ := List.mem_map.1 mem
      obtain ⟨f, hf, written, -⟩ := mem_members.1 listed
      exact (h.faithful f hf).plain written
  decode_eq {r j} written := by
    obtain ⟨pending, members', rfl, order, each⟩ := Json.Reordered.exists_order written
    exact (tells_members h order each).decode_eq h

theorem neverNull_codec (start : ρ) (fields : List (Field ρ)) :
    (codec start fields).NeverNull := by
  intro r j written
  cases written with | object => exact nofun

end Record

end CustodySigner
