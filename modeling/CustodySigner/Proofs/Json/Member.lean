import CustodySigner.Proofs.Json.Record

set_option autoImplicit false
set_option relaxedAutoImplicit false

/-!
What a record's object may look like. A member is read in one step, which touches its own field and
no other; so a field that no member names stays as it was, null does nothing where it stands for what
was there, and a field that comes twice, or with a value that it refuses, is the end of it.
-/

namespace CustodySigner

namespace Codec

variable {α : Type}

/-- Null stands for no value. -/
def RefusesNull (c : Codec α) : Prop :=
  c.decode .null = none

@[simp] theorem refusesNull_bool : Codec.bool.RefusesNull := rfl

@[simp] theorem refusesNull_string : Codec.string.RefusesNull := rfl

@[simp] theorem refusesNull_uint32 : Codec.uint32.RefusesNull := rfl

@[simp] theorem refusesNull_uint64 : Codec.uint64.RefusesNull := rfl

end Codec

namespace Record

variable {ρ α : Type} {start r : ρ} {fields : List (Field ρ)}

theorem refusesNull_codec (start : ρ) (fields : List (Field ρ)) :
    (codec start fields).RefusesNull := rfl

section Values

/-- The field refuses null, whatever record it is read into. -/
def Field.RefusesNull (f : Field ρ) : Prop :=
  ∀ r, f.decode .null r = none

variable {name : String} {c : Codec α} {presence : Presence} {j : Json}

theorem field_readsAs {get : ρ → α} {set : α → ρ → ρ} (get_set : ∀ v r, get (set v r) = v)
    (read : c.decode j = some (get r)) : (field name c get set presence).ReadsAs r j := by
  intro acc
  refine ⟨set (get r) acc, congrArg (Option.map fun v => set v acc) read, ?_⟩
  exact congrArg (fun v => some (c.encode v)) (get_set (get r) acc)

theorem optionField_readsAs {get : ρ → Option α} {set : Option α → ρ → ρ}
    (get_set : ∀ v r, get (set v r) = v) (read : c.option.decode j = some (get r)) :
    (optionField name c get set).ReadsAs r j := by
  intro acc
  refine ⟨set (get r) acc, congrArg (Option.map fun v => set v acc) read, ?_⟩
  exact congrArg (Option.map c.encode) (get_set (get r) acc)

/-- What a field takes a value for does not depend on the record it is read into. -/
def Field.Uniform (f : Field ρ) : Prop :=
  ∀ {j acc r}, f.decode j acc = some r → f.ReadsAs r j

@[simp] theorem field_uniform {get : ρ → α} {set : α → ρ → ρ} (get_set : ∀ v r, get (set v r) = v) :
    (field name c get set presence).Uniform := by
  intro j acc r read
  obtain ⟨v, decoded, rfl⟩ := Option.map_eq_some_iff.1 read
  exact field_readsAs get_set (decoded.trans (congrArg some (get_set v acc).symm))

@[simp] theorem optionField_uniform {get : ρ → Option α} {set : Option α → ρ → ρ}
    (get_set : ∀ v r, get (set v r) = v) : (optionField name c get set).Uniform := by
  intro j acc r read
  obtain ⟨v, decoded, rfl⟩ := Option.map_eq_some_iff.1 read
  exact optionField_readsAs get_set (decoded.trans (congrArg some (get_set v acc).symm))

@[simp] theorem nullAs_readsAs_null {value : α} {get : ρ → α} {set : α → ρ → ρ}
    (get_set : ∀ v r, get (set v r) = v) (blank : get start = value) :
    (field name (c.nullAs value) get set presence).ReadsAs start .null :=
  field_readsAs get_set (congrArg some blank.symm)

@[simp] theorem option_readsAs_null {get : ρ → Option α} {set : Option α → ρ → ρ}
    (get_set : ∀ v r, get (set v r) = v) (unset : get start = none) :
    (field name c.option get set presence).ReadsAs start .null :=
  field_readsAs get_set (congrArg some unset.symm)

@[simp] theorem optionField_readsAs_null {get : ρ → Option α} {set : Option α → ρ → ρ}
    (get_set : ∀ v r, get (set v r) = v) (unset : get start = none) :
    (optionField name c get set).ReadsAs start .null :=
  optionField_readsAs get_set (congrArg some unset.symm)

@[simp] theorem presence_field {get : ρ → α} {set : α → ρ → ρ} :
    (field name c get set presence).presence = presence := rfl

@[simp] theorem presence_optionField {get : ρ → Option α} {set : Option α → ρ → ρ} :
    (optionField name c get set).presence = .optional := rfl

@[simp] theorem field_refusesNull {get : ρ → α} {set : α → ρ → ρ} (refused : c.RefusesNull) :
    (field name c get set presence).RefusesNull := by
  intro r
  exact congrArg (Option.map fun v => set v r) refused

end Values

section Steps

/-- Reads one member: `state` is what came before, the names of the fields and the record so far. -/
def readMember (fields : List (Field ρ)) (state : List String × ρ) (m : Option String × Json) :
    Option (List String × ρ) :=
  match m.1 with
  | none => none
  | some name =>
    match fields.find? (·.name == name) with
    | none => some state
    | some f =>
      if state.1.contains name then none
      else (f.decode m.2 state.2).map fun r => (name :: state.1, r)

/-- The record, unless a field that is required did not come. -/
def finish (fields : List (Field ρ)) (state : List String × ρ) : Option ρ :=
  if fields.all fun f => f.presence ≠ .required || state.1.contains f.name then some state.2
  else none

variable {members : List (Option String × Json)} {state state' : List String × ρ} {f : Field ρ}
  {j : Json}

theorem eq_of_finish (finished : finish fields state = some r) : state.2 = r := by
  unfold finish at finished
  split at finished
  · exact Option.some.inj finished
  · cases finished

theorem readMembers_eq (members : List (Option String × Json)) (state : List String × ρ) :
    readMembers fields members state.1 state.2 =
      (members.foldlM (readMember fields) state).bind (finish fields) := by
  induction members generalizing state with
  | nil => rfl
  | cons m rest ih =>
    obtain ⟨name, value⟩ := m
    rw [List.foldlM_cons]
    cases name with
    | none => rfl
    | some name =>
      simp only [readMembers, readMember]
      cases fields.find? (·.name == name) with
      | none => exact ih state
      | some f =>
        dsimp only
        split
        · rfl
        · cases f.decode value state.2 with
          | none => rfl
          | some r => exact ih (name :: state.1, r)

theorem readMember_field (h : Lawful start fields) (hf : f ∈ fields) :
    readMember fields state (some f.name, j) =
      if state.1.contains f.name then none
      else (f.decode j state.2).map fun r => (f.name :: state.1, r) := by
  simp only [readMember, h.find?_eq hf]

theorem readMember_cases {m : Option String × Json} (step : readMember fields state m = some state') :
    ((∀ f ∈ fields, m.1 ≠ some f.name) ∧ state' = state) ∨
      ∃ f ∈ fields, m.1 = some f.name ∧ f.name ∉ state.1 ∧
        ∃ r, f.decode m.2 state.2 = some r ∧ state' = (f.name :: state.1, r) := by
  obtain ⟨name, value⟩ := m
  cases name with
  | none => cases step
  | some name =>
    unfold readMember at step
    dsimp only at step
    cases found : fields.find? (·.name == name) with
    | none =>
      simp only [found, Option.some.injEq] at step
      exact .inl ⟨find?_eq_none_iff.1 found, step.symm⟩
    | some f =>
      obtain rfl : f.name = name := by simpa using List.find?_some found
      simp only [found] at step
      split at step
      · cases step
      · rename_i fresh
        obtain ⟨r, read, rfl⟩ := Option.map_eq_some_iff.1 step
        have unseen : f.name ∉ state.1 := by simpa using fresh
        exact .inr ⟨f, List.mem_of_find?_eq_some found, rfl, unseen, r, read, rfl⟩

theorem foldlM_readMember_preserves {P : List String × ρ → Prop}
    (step : ∀ m ∈ members, ∀ s s', P s → readMember fields s m = some s' → P s')
    (before : P state) (read : members.foldlM (readMember fields) state = some state') :
    P state' := by
  induction members generalizing state with
  | nil =>
    obtain rfl := Option.some.inj read
    exact before
  | cons m rest ih =>
    rw [List.foldlM_cons] at read
    obtain ⟨next, first, read⟩ := Option.bind_eq_some_iff.1 read
    exact ih (fun m' mem => step m' (List.mem_cons_of_mem m mem))
      (step m List.mem_cons_self state next before first) read

theorem mem_seen_of_read {name : String} (seen : name ∈ state.1)
    (read : members.foldlM (readMember fields) state = some state') : name ∈ state'.1 := by
  refine foldlM_readMember_preserves (P := fun s => name ∈ s.1) (fun m _ s s' seen step => ?_)
    seen read
  rcases readMember_cases step with ⟨-, rfl⟩ | ⟨g, -, -, -, r, -, rfl⟩
  · exact seen
  · exact List.mem_cons_of_mem _ seen

theorem unread_of_quiet (h : Lawful start fields) (hf : f ∈ fields)
    (quiet : ∀ m ∈ members, m.1 ≠ some f.name) (unseen : f.name ∉ state.1)
    (read : members.foldlM (readMember fields) state = some state') :
    f.name ∉ state'.1 ∧ f.encode state'.2 = f.encode state.2 := by
  refine foldlM_readMember_preserves
    (P := fun s => f.name ∉ s.1 ∧ f.encode s.2 = f.encode state.2) (fun m mem s s' kept step => ?_)
    ⟨unseen, rfl⟩ read
  rcases readMember_cases step with ⟨-, rfl⟩ | ⟨g, hg, named, -, r, decoded, rfl⟩
  · exact kept
  · have other : g.name ≠ f.name := fun same => quiet m mem (named.trans (congrArg some same))
    refine ⟨fun again => ?_, (h.keeps hg hf other _ _ _ decoded).trans kept.2⟩
    exact (List.mem_cons.1 again).elim (fun same => other same.symm) kept.1

end Steps

section Objects

variable {f : Field ρ} {before between after members : List (Option String × Json)} {j j' : Json}

theorem decode_object_eq (members : List (Option String × Json)) :
    (codec start fields).decode (.object members) =
      (members.foldlM (readMember fields) ([], start)).bind (finish fields) :=
  readMembers_eq members ([], start)

theorem encode_eq_of_missing (h : Lawful start fields) (hf : f ∈ fields)
    (missing : ∀ m ∈ members, m.1 ≠ some f.name)
    (read : (codec start fields).decode (.object members) = some r) :
    f.encode r = f.encode start := by
  rw [decode_object_eq] at read
  obtain ⟨state, steps, finished⟩ := Option.bind_eq_some_iff.1 read
  obtain rfl := eq_of_finish finished
  exact (unread_of_quiet h hf missing List.not_mem_nil steps).2

theorem decode_object_eq_none {m : Option String × Json}
    (refused : ∀ state, before.foldlM (readMember fields) ([], start) = some state →
      readMember fields state m = none) :
    (codec start fields).decode (.object (before ++ m :: after)) = none := by
  rw [decode_object_eq, List.foldlM_append]
  cases steps : before.foldlM (readMember fields) ([], start) with
  | none => rfl
  | some state => simp [refused state steps]

theorem decode_object_twice (h : Lawful start fields) (hf : f ∈ fields) :
    (codec start fields).decode
      (.object (before ++ (some f.name, j) :: (between ++ (some f.name, j') :: after))) = none := by
  rw [← List.cons_append, ← List.append_assoc]
  refine decode_object_eq_none fun state steps => ?_
  rw [List.foldlM_append] at steps
  obtain ⟨first, -, steps⟩ := Option.bind_eq_some_iff.1 steps
  rw [List.foldlM_cons] at steps
  obtain ⟨second, came, steps⟩ := Option.bind_eq_some_iff.1 steps
  have seen : f.name ∈ second.1 := by
    rw [readMember_field h hf] at came
    split at came
    · cases came
    · obtain ⟨r, -, rfl⟩ := Option.map_eq_some_iff.1 came
      exact List.mem_cons_self
  have still : f.name ∈ state.1 := mem_seen_of_read seen steps
  rw [readMember_field h hf, if_pos (by simpa using still)]

theorem decode_object_null (h : Lawful start fields) (hf : f ∈ fields) (refuses : f.RefusesNull) :
    (codec start fields).decode (.object (before ++ (some f.name, .null) :: after)) = none := by
  refine decode_object_eq_none fun state _ => ?_
  rw [readMember_field h hf, refuses state.2]
  split <;> rfl

/-- Once a field is settled it has no influence whether it came, unless it is required. -/
private theorem read_quiet_congr (h : Lawful start fields) (hf : f ∈ fields)
    (optional : f.presence ≠ .required) (quiet : ∀ m ∈ members, m.1 ≠ some f.name)
    {r : ρ} {seen seen' : List String} (same : ∀ name, name ≠ f.name → (name ∈ seen ↔ name ∈ seen')) :
    (members.foldlM (readMember fields) (seen, r)).bind (finish fields) =
      (members.foldlM (readMember fields) (seen', r)).bind (finish fields) := by
  induction members generalizing r seen seen' with
  | nil =>
    have all : (fields.all fun g => g.presence ≠ .required || seen.contains g.name) =
        fields.all fun g => g.presence ≠ .required || seen'.contains g.name := by
      rw [Bool.eq_iff_iff, List.all_eq_true, List.all_eq_true]
      refine forall₂_congr fun g hg => ?_
      by_cases here : g.name = f.name
      · obtain rfl := h.eq_of_name hg hf here
        simp [optional]
      · simp [same g.name here]
    change finish fields (seen, r) = finish fields (seen', r)
    unfold finish
    dsimp only
    rw [all]
  | cons m rest ih =>
    obtain ⟨name, value⟩ := m
    obtain ⟨here, later⟩ := List.forall_mem_cons.1 quiet
    rw [List.foldlM_cons, List.foldlM_cons]
    cases name with
    | none => rfl
    | some name =>
      have other : name ≠ f.name := fun eq => here (congrArg some eq)
      simp only [readMember]
      cases fields.find? (·.name == name) with
      | none => exact ih later same
      | some g =>
        dsimp only
        have came : seen.contains name = seen'.contains name := by simp [same name other]
        rw [came]
        split
        · rfl
        · cases g.decode value r with
          | none => rfl
          | some r' =>
            refine ih later fun name' other' => ?_
            rw [List.mem_cons, List.mem_cons, same name' other']

theorem decode_object_null_absent (h : Lawful start fields) (hf : f ∈ fields)
    (optional : f.presence ≠ .required) (takes : f.ReadsAs start .null)
    (quiet : ∀ m ∈ before, m.1 ≠ some f.name) (quiet' : ∀ m ∈ after, m.1 ≠ some f.name) :
    (codec start fields).decode (.object (before ++ (some f.name, .null) :: after)) =
      (codec start fields).decode (.object (before ++ after)) := by
  rw [decode_object_eq, decode_object_eq, List.foldlM_append, List.foldlM_append]
  cases steps : before.foldlM (readMember fields) ([], start) with
  | none => rfl
  | some state =>
    obtain ⟨seen, r⟩ := state
    obtain ⟨unseen, kept⟩ := unread_of_quiet h hf quiet List.not_mem_nil steps
    obtain ⟨r', read, back⟩ := takes r
    have same : r' = r := by
      refine h.complete r' r fun g hg => ?_
      by_cases here : f.name = g.name
      · obtain rfl := h.eq_of_name hf hg here
        exact back.trans kept.symm
      · exact h.keeps hf hg here _ _ _ read
    have step : readMember fields (seen, r) (some f.name, .null) = some (f.name :: seen, r) := by
      rw [readMember_field h hf, if_neg (by simpa using unseen), read, same]
      rfl
    change ((readMember fields (seen, r) (some f.name, .null)) >>= fun state =>
      after.foldlM (readMember fields) state).bind (finish fields) = _
    rw [step]
    refine read_quiet_congr h hf optional quiet' fun name other => ?_
    rw [List.mem_cons, or_iff_right other]

end Objects

section Arrays

theorem decode_array_eq (h : Lawful start fields) {items : List Json}
    (each : List.Forall₂ (fun f item => f.ReadsAs r item) fields items) :
    (codec start fields).decode (.array items) = some r := by
  have rest {todo : List (Field ρ)} {items : List Json} {acc : ρ}
      (each : List.Forall₂ (fun f item => f.ReadsAs r item) todo items) (sub : todo ⊆ fields)
      (distinct : (todo.map (·.name)).Nodup)
      (settled : ∀ f ∈ fields, f ∉ todo → f.encode acc = f.encode r) :
      readItems todo items acc = some r := by
    induction each generalizing acc with
    | nil =>
      have same : acc = r := h.complete acc r fun f hf => settled f hf List.not_mem_nil
      simp [readItems, same]
    | @cons f item todo items first _ ih =>
      obtain ⟨hf, sub⟩ := List.cons_subset.1 sub
      rw [List.map_cons, List.nodup_cons] at distinct
      obtain ⟨acc', read, back⟩ := first acc
      simp only [readItems, read]
      refine ih sub distinct.2 fun g hg done => ?_
      by_cases here : f.name = g.name
      · obtain rfl := h.eq_of_name hf hg here
        exact back
      · rw [h.keeps hf hg here _ _ _ read]
        refine settled g hg fun mem => ?_
        rcases List.mem_cons.1 mem with rfl | mem
        · exact here rfl
        · exact done mem
  exact rest each (List.Subset.refl _) h.distinct fun f hf away => absurd hf away

end Arrays

section Look

theorem find?_members (distinct : (fields.map (·.name)).Nodup) {f : Field ρ} (hf : f ∈ fields) :
    (members fields r).find? (·.1 == f.name) = (f.encode r).map (f.name, ·) := by
  cases written : f.encode r with
  | none =>
    refine List.find?_eq_none.2 fun m mem same => ?_
    obtain ⟨g, hg, here, named⟩ := mem_members.1 mem
    obtain rfl : g = f := List.inj_on_of_nodup_map distinct hg hf (named.trans (by simpa using same))
    exact nomatch written.symm.trans here
  | some value =>
    have mem : (f.name, value) ∈ members fields r := mem_members.2 ⟨f, hf, written, rfl⟩
    cases found : (members fields r).find? (·.1 == f.name) with
    | none => exact absurd (beq_self_eq_true f.name) (List.find?_eq_none.1 found _ mem)
    | some m =>
      obtain ⟨name, other⟩ := m
      obtain rfl : name = f.name := by simpa using List.find?_some found
      obtain ⟨g, hg, here, named⟩ := mem_members.1 (List.mem_of_find?_eq_some found)
      obtain rfl : g = f := List.inj_on_of_nodup_map distinct hg hf named
      rw [written] at here
      obtain rfl : value = other := Option.some.inj here
      rfl

end Look

end Record

end CustodySigner
