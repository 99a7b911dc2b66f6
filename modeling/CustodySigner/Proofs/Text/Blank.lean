import CustodySigner.Text.Blank
import Mathlib.Data.List.DropRight
import Mathlib.Data.List.TakeWhile

set_option autoImplicit false
set_option relaxedAutoImplicit false

/-!
Trimmed texts and fields. Trimming takes away the blanks at both ends and nothing else, and the fields
of a text are the stretches without a separator that it is joined from.
-/

namespace CustodySigner.Text

/-- The text is `core` with blanks around it, and `core` neither starts nor ends with a blank. -/
def TrimsTo (cs core : List Char) : Prop :=
  ∃ lead trail, cs = lead ++ core ++ trail ∧
    (∀ c ∈ lead, isBlank c = true) ∧ (∀ c ∈ trail, isBlank c = true) ∧
    (∀ c ∈ core.head?, isBlank c = false) ∧ ∀ c ∈ core.getLast?, isBlank c = false

private theorem dropWhile_of_head? {cs : List Char} (h : ∀ c ∈ cs.head?, isBlank c = false) :
    cs.dropWhile isBlank = cs := by
  cases cs with
  | nil => rfl
  | cons c cs =>
    have solid := h c rfl
    rw [List.dropWhile_cons_of_neg]
    simp [solid]

private theorem dropWhile_of_blank {cs : List Char} (h : ∀ c ∈ cs, isBlank c = true) :
    cs.dropWhile isBlank = [] :=
  List.dropWhile_eq_nil_iff.2 h

private theorem head?_dropWhile_solid (cs : List Char) :
    ∀ c ∈ (cs.dropWhile isBlank).head?, isBlank c = false := by
  intro c first
  have := List.head?_dropWhile_not isBlank cs
  rw [Option.mem_def] at first
  simpa [first] using this

private theorem dropWhile_reverse_of_getLast? {cs trail : List Char}
    (solid : ∀ c ∈ cs.getLast?, isBlank c = false) (blank : ∀ c ∈ trail, isBlank c = true) :
    ((cs ++ trail).reverse.dropWhile isBlank).reverse = cs := by
  have blank' : ∀ c ∈ trail.reverse, isBlank c = true := by simpa using blank
  have solid' : ∀ c ∈ cs.reverse.head?, isBlank c = false := by simpa using solid
  rw [List.reverse_append, List.dropWhile_append_of_pos blank', dropWhile_of_head? solid',
    List.reverse_reverse]

theorem trimsTo_trim (cs : List Char) : TrimsTo cs (trim cs) := by
  have split : trim cs ++ (cs.dropWhile isBlank).rtakeWhile isBlank = cs.dropWhile isBlank :=
    List.rdropWhile_append_rtakeWhile
  refine ⟨cs.takeWhile isBlank, (cs.dropWhile isBlank).rtakeWhile isBlank, ?_, ?_, ?_, ?_, ?_⟩
  · rw [List.append_assoc, split, List.takeWhile_append_dropWhile]
  · exact fun c mem => List.mem_takeWhile_imp mem
  · exact fun c mem => List.mem_rtakeWhile_imp mem
  · intro c first
    refine head?_dropWhile_solid cs c ?_
    rw [← split, Option.mem_def, List.head?_append, Option.mem_def.1 first]
    rfl
  · intro c last
    refine head?_dropWhile_solid (cs.dropWhile isBlank).reverse c ?_
    unfold trim at last
    rwa [List.getLast?_reverse] at last

theorem TrimsTo.trim_eq {cs core : List Char} (h : TrimsTo cs core) : trim cs = core := by
  obtain ⟨lead, trail, rfl, blankLead, blankTrail, first, last⟩ := h
  unfold trim
  rw [List.append_assoc, List.dropWhile_append_of_pos blankLead]
  by_cases empty : core = []
  · subst empty
    rw [List.nil_append, dropWhile_of_blank blankTrail]
    rfl
  · have first' : ∀ c ∈ (core ++ trail).head?, isBlank c = false := by
      rw [List.head?_append_of_ne_nil _ empty]
      exact first
    rw [dropWhile_of_head? first', dropWhile_reverse_of_getLast? last blankTrail]

theorem trimsTo_self {cs : List Char} (solid : ∀ c ∈ cs, isBlank c = false) : TrimsTo cs cs :=
  ⟨[], [], by simp, nofun, nofun, fun c first => solid c (List.mem_of_head? first),
    fun c last => solid c (List.mem_of_getLast? last)⟩

section Fields

variable {separator : Char} {isSeparator : Char → Bool} {field cs : List Char}
  {parts : List (List Char)}

theorem fields_of_solid (h : ∀ c ∈ field, isSeparator c = false) :
    fields isSeparator field = [field] := by
  induction field with
  | nil => rfl
  | cons c field ih =>
    rw [List.forall_mem_cons] at h
    simp [fields, h.1, ih h.2]

theorem fields_append_cons (h : ∀ c ∈ field, isSeparator c = false) {mark : Char}
    (closing : isSeparator mark = true) :
    fields isSeparator (field ++ mark :: cs) = field :: fields isSeparator cs := by
  induction field with
  | nil => simp [fields, closing]
  | cons c field ih =>
    rw [List.forall_mem_cons] at h
    simp [fields, h.1, ih h.2]

private theorem solid_of_not_mem (h : separator ∉ field) :
    ∀ c ∈ field, (c == separator) = false := by
  intro c mem
  rw [beq_eq_false_iff_ne]
  rintro rfl
  exact h mem

theorem fields_ne_nil (separator : Char) (cs : List Char) : fields (· == separator) cs ≠ [] := by
  cases cs with
  | nil => simp [fields]
  | cons c cs =>
    unfold fields
    split
    · simp
    · split <;> simp

theorem fields_spec (separator : Char) (cs : List Char) :
    separator :: cs = (fields (· == separator) cs).flatMap (separator :: ·) ∧
      ∀ field ∈ fields (· == separator) cs, separator ∉ field := by
  induction cs with
  | nil => simp [fields]
  | cons c cs ih =>
    obtain ⟨joined, free⟩ := ih
    by_cases here : c = separator
    · subst here
      have split : fields (· == c) (c :: cs) = [] :: fields (· == c) cs := by simp [fields]
      rw [split, List.flatMap_cons, ← joined]
      exact ⟨rfl, List.forall_mem_cons.2 ⟨by simp, free⟩⟩
    · obtain ⟨field, more, split⟩ := List.exists_cons_of_ne_nil (fields_ne_nil separator cs)
      have other : (c == separator) = false := beq_false_of_ne here
      have grown : fields (· == separator) (c :: cs) = (c :: field) :: more := by
        simp [fields, other, split]
      rw [split, List.flatMap_cons, List.cons_append, List.cons.injEq] at joined
      rw [split, List.forall_mem_cons] at free
      rw [grown, List.flatMap_cons, List.cons_append, List.cons_append, ← joined.2]
      refine ⟨rfl, List.forall_mem_cons.2 ⟨?_, free.2⟩⟩
      rw [List.mem_cons, not_or]
      exact ⟨Ne.symm here, free.1⟩

theorem fields_eq_iff :
    fields (· == separator) cs = parts ↔
      separator :: cs = parts.flatMap (separator :: ·) ∧ ∀ part ∈ parts, separator ∉ part := by
  constructor
  · rintro rfl
    exact fields_spec separator cs
  · rintro ⟨joined, free⟩
    induction parts generalizing cs with
    | nil => cases joined
    | cons part more ih =>
      rw [List.forall_mem_cons] at free
      rw [List.flatMap_cons, List.cons_append, List.cons.injEq] at joined
      obtain ⟨-, rfl⟩ := joined
      cases more with
      | nil => simpa using fields_of_solid (solid_of_not_mem free.1)
      | cons next more =>
        have rest : fields (· == separator) (next ++ more.flatMap (separator :: ·)) = next :: more :=
          ih (by rw [List.flatMap_cons, List.cons_append]) free.2
        rw [List.flatMap_cons, List.cons_append,
          fields_append_cons (solid_of_not_mem free.1) (beq_self_eq_true separator), rest]

end Fields

end CustodySigner.Text
