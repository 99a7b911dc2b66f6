import CustodySigner.Proofs.KeyPath.Display

set_option autoImplicit false
set_option relaxedAutoImplicit false

/-!
The spellings of a path. One list of numbers is written with either root, with marks or without, with
zeros in front of the numbers and with blanks around the parts. All these texts are read as paths with
the same indices, or all of them are refused.
-/

namespace CustodySigner

namespace PathComponent

def IsDecimal (digits : List Char) : Prop :=
  digits ≠ [] ∧ ∀ d ∈ digits, isDigit d = true

/-- The part is these digits, with zeros in front, with a mark behind or without one, and with blanks
around it. -/
def Spells (part digits : List Char) : Prop :=
  ∃ (zeros : Nat) (mark : Option Char), (∀ c ∈ mark, isMark c = true) ∧
    Text.TrimsTo part (List.replicate zeros '0' ++ digits ++ mark.toList)

variable {part digits : List Char}

theorem numeral_zeros_append (zeros : Nat) (digits : List Char) :
    numeral (List.replicate zeros '0' ++ digits) = numeral digits := by
  simp [numeral, Nat.ofDigits_append, Nat.ofDigits_replicate_zero]

theorem IsDecimal.zeros_append (decimal : IsDecimal digits) (zeros : Nat) :
    IsDecimal (List.replicate zeros '0' ++ digits) := by
  refine ⟨List.append_ne_nil_of_right_ne_nil _ decimal.1, fun d mem => ?_⟩
  rcases List.mem_append.1 mem with zero | digit
  · rw [List.eq_of_mem_replicate zero]
    decide
  · exact decimal.2 d digit

theorem IsDecimal.exists_zeros (decimal : IsDecimal digits) :
    ∃ zeros, digits = List.replicate zeros '0' ++ Nat.toDigits 10 (numeral digits) := by
  -- At the end of the digits, where a number is printed last; a front that is all zeros stays unprinted.
  induction digits using List.reverseRecOn with
  | nil => exact absurd rfl decimal.1
  | append_singleton front d ih =>
    obtain ⟨low, high⟩ := isDigit_iff.1 (decimal.2 d (by simp))
    have last : Nat.toDigits 10 (d.toNat - 48) = [d] := Text.toDigits_digit low high
    rw [numeral_append_singleton]
    by_cases empty : front = []
    · subst empty
      have nothing : numeral [] = 0 := rfl
      rw [nothing, Nat.mul_zero, Nat.zero_add, last]
      exact ⟨0, rfl⟩
    · have digit : ∀ c ∈ front, isDigit c = true :=
        fun c mem => decimal.2 c (List.mem_append_left _ mem)
      obtain ⟨zeros, split⟩ := ih ⟨empty, digit⟩
      by_cases positive : 0 < numeral front
      · have printed := Nat.toDigits_append_toDigits (b := 10) (by decide) positive
          (show d.toNat - 48 < 10 by omega)
        refine ⟨zeros, ?_⟩
        rw [← printed, last, ← List.append_assoc, ← split]
      · have zero : numeral front = 0 := Nat.eq_zero_of_not_pos positive
        have only : front = List.replicate (zeros + 1) '0' := by
          rw [zero] at split
          rw [split, List.replicate_succ']
          rfl
        rw [zero, Nat.mul_zero, Nat.zero_add, last]
        exact ⟨zeros + 1, by rw [← only]⟩

theorem Spells.numbered (h : Spells part digits) (decimal : IsDecimal digits) :
    ∃ core hardened, Text.TrimsTo part core ∧ Numbered core (numeral digits) hardened := by
  obtain ⟨zeros, mark, closing, trimmed⟩ := h
  obtain ⟨nonempty, all⟩ := decimal.zeros_append zeros
  rw [← numeral_zeros_append zeros]
  cases mark with
  | none =>
    rw [Option.toList_none, List.append_nil] at trimmed
    exact ⟨_, false, trimmed, .unmarked nonempty all⟩
  | some mark => exact ⟨_, true, trimmed, .marked nonempty all (closing mark rfl)⟩

theorem Spells.slash_not_mem (h : Spells part digits) (decimal : IsDecimal digits) :
    '/' ∉ part := by
  obtain ⟨zeros, mark, closing, lead, trail, rfl, blankLead, blankTrail, -⟩ := h
  have digit := (decimal.zeros_append zeros).2
  intro mem
  simp only [List.append_assoc, List.mem_append, Option.mem_toList] at mem digit
  rcases mem with lead | zero | written | mark | trail
  · exact absurd (blankLead _ lead) (by decide)
  · exact absurd (digit _ (.inl zero)) (by decide)
  · exact absurd (digit _ (.inr written)) (by decide)
  · exact absurd (closing _ mark) (by decide)
  · exact absurd (blankTrail _ trail) (by decide)

/-- The index that digits write. -/
def indexOf (digits : List Char) : UInt32 :=
  UInt32.ofNat (numeral digits)

theorem Spells.exists_parse_iff (h : Spells part digits) (decimal : IsDecimal digits)
    {index : UInt32} :
    (∃ c, parse part = .ok c ∧ c.index = index) ↔
      numeral digits < 2 ^ 31 ∧ index = indexOf digits := by
  obtain ⟨core, hardened, trimmed, numbered⟩ := h.numbered decimal
  rw [parse_of_numbered trimmed.trim_eq numbered]
  split_ifs with huge large
  · exact iff_of_false (by rintro ⟨c, read, -⟩; cases read) (by rintro ⟨small, -⟩; omega)
  · exact iff_of_false (by rintro ⟨c, read, -⟩; cases read) (by rintro ⟨small, -⟩; omega)
  · constructor
    · rintro ⟨c, read, rfl⟩
      obtain rfl := Except.ok.inj read
      exact ⟨Nat.lt_of_not_le large, rfl⟩
    · rintro ⟨-, rfl⟩
      exact ⟨_, rfl, rfl⟩

theorem exists_forall₂_parse_iff {parts levels : List (List Char)}
    (spelled : List.Forall₂ Spells parts levels)
    (decimal : ∀ digits ∈ levels, IsDecimal digits) {indices : List UInt32} :
    (∃ components, List.Forall₂ (fun part c => parse part = .ok c) parts components ∧
      components.map (·.index) = indices) ↔
      (∀ digits ∈ levels, numeral digits < 2 ^ 31) ∧ indices = levels.map indexOf := by
  induction spelled generalizing indices with
  | nil => simp [eq_comm]
  | cons written _ ih =>
    obtain ⟨first, later⟩ := List.forall_mem_cons.1 decimal
    rw [List.forall_mem_cons, List.map_cons]
    constructor
    · rintro ⟨_, read, rfl⟩
      cases read with
      | cons head tail =>
        obtain ⟨small, index⟩ := (written.exists_parse_iff first).1 ⟨_, head, rfl⟩
        obtain ⟨smaller, others⟩ := (ih later).1 ⟨_, tail, rfl⟩
        rw [List.map_cons, index, others]
        exact ⟨⟨small, smaller⟩, rfl⟩
    · rintro ⟨⟨small, smaller⟩, rfl⟩
      obtain ⟨c, head, index⟩ := (written.exists_parse_iff first).2 ⟨small, rfl⟩
      obtain ⟨components, tail, others⟩ := (ih later).2 ⟨smaller, rfl⟩
      exact ⟨c :: components, .cons head tail, by rw [List.map_cons, index, others]⟩

theorem Reads.spells {c : PathComponent} (h : Reads part (.ok c)) :
    Spells part (Nat.toDigits 10 c.index.toNat) := by
  cases h with
  | index trimmed numbered small =>
    clear small
    generalize c.index.toNat = n, c.hardened = hardened at numbered ⊢
    cases numbered with
    | @unmarked digits nonempty decimal =>
      obtain ⟨zeros, split⟩ := IsDecimal.exists_zeros ⟨nonempty, decimal⟩
      refine ⟨zeros, none, nofun, ?_⟩
      rwa [← split, Option.toList_none, List.append_nil]
    | @marked digits mark nonempty decimal closing =>
      obtain ⟨zeros, split⟩ := IsDecimal.exists_zeros ⟨nonempty, decimal⟩
      refine ⟨zeros, some mark, by simpa using closing, ?_⟩
      rwa [← split]

end PathComponent

namespace KeyPath

/-- The child numbers on a path, whether they are marked or not. -/
def indices (path : KeyPath) : List UInt32 :=
  path.components.map (·.index)

/-- The text is a root and a spelling of each of these numbers behind a slash, with blanks around
it. -/
def Spells (text : String) (levels : List (List Char)) : Prop :=
  ∃ (root : Char) (parts : List (List Char)), IsRoot root ∧
    Text.TrimsTo text.toList (root :: parts.flatMap ('/' :: ·)) ∧
    List.Forall₂ PathComponent.Spells parts levels

/-- The texts write the same digits at every level. They differ at most in the case of the root, the
marks, the blanks and the zeros in front of numbers. -/
def Respells (text text' : String) : Prop :=
  ∃ levels, (∀ digits ∈ levels, PathComponent.IsDecimal digits) ∧ Spells text levels ∧
    Spells text' levels

theorem Respells.symm {text text' : String} (h : Respells text text') : Respells text' text := by
  obtain ⟨levels, decimal, spelled, spelled'⟩ := h
  exact ⟨levels, decimal, spelled', spelled⟩

variable {text text' : String} {levels : List (List Char)}

theorem Spells.exists_parse_iff (h : Spells text levels)
    (decimal : ∀ digits ∈ levels, PathComponent.IsDecimal digits) {indices : List UInt32} :
    (∃ path, parse text = .ok path ∧ path.indices = indices) ↔
      (∀ digits ∈ levels, PathComponent.numeral digits < 2 ^ 31) ∧
        indices = levels.map PathComponent.indexOf := by
  obtain ⟨root, parts, rooted, trimmed, spelled⟩ := h
  have separate : ∀ part ∈ parts, '/' ∉ part := by
    intro part mem
    obtain ⟨digits, level, written⟩ := exists_of_mem_forall₂ spelled mem
    exact written.slash_not_mem (decimal digits level)
  rw [← PathComponent.exists_forall₂_parse_iff spelled decimal,
    parse_of_parts trimmed.trim_eq rooted separate]
  constructor
  · rintro ⟨path, parsed, same⟩
    obtain ⟨components, read, rfl⟩ := map_eq_ok_iff.1 parsed
    exact ⟨components, mapM_eq_ok_iff.1 read, same⟩
  · rintro ⟨components, read, same⟩
    exact ⟨⟨components⟩, map_eq_ok_iff.2 ⟨components, mapM_eq_ok_iff.2 read, rfl⟩, same⟩

theorem spells_of_parse {path : KeyPath} (parsed : parse text = .ok path) :
    Spells text (path.indices.map fun index => Nat.toDigits 10 index.toNat) := by
  have read := reads_parse text
  rw [parsed] at read
  cases read with
  | path trimmed rooted separate read =>
    refine ⟨_, _, rooted, trimmed, ?_⟩
    rw [indices, List.map_map, List.forall₂_map_right_iff]
    exact read.imp fun part c component => component.spells

/-- The texts that write the digits of a path are the paths with the same indices. -/
theorem respells_iff {path : KeyPath} (parsed : parse text = .ok path) :
    Respells text text' ↔ ∃ path', parse text' = .ok path' ∧ path'.indices = path.indices := by
  constructor
  · intro respelled
    obtain ⟨levels, decimal, spelled, spelled'⟩ := respelled
    have written := (spelled.exists_parse_iff decimal).1 ⟨path, parsed, rfl⟩
    exact (spelled'.exists_parse_iff decimal).2 written
  · intro same
    obtain ⟨path', parsed', indices⟩ := same
    refine ⟨_, fun digits level => ?_, spells_of_parse parsed, indices ▸ spells_of_parse parsed'⟩
    obtain ⟨index, -, rfl⟩ := List.mem_map.1 level
    exact ⟨Nat.toDigits_ne_nil, fun d mem => PathComponent.isDigit_of_mem_toDigits mem⟩

end KeyPath

end CustodySigner
