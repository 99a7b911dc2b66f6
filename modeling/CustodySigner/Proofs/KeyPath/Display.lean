import CustodySigner.Keys.MasterKey
import CustodySigner.Proofs.KeyPath.Grammar
import CustodySigner.Proofs.Text.Decimal

set_option autoImplicit false
set_option relaxedAutoImplicit false

/-!
Paths that are written out. The text of a path is in the grammar of paths: it is read back as that path
where every index is a child number, and refused for its first index that is not. What a text was read
as can therefore stand for the text.
-/

namespace CustodySigner

namespace PathComponent

theorem isDigit_of_mem_toDigits {n : Nat} {d : Char} (mem : d ∈ Nat.toDigits 10 n) :
    isDigit d = true := by
  have digit := Nat.isDigit_of_mem_toDigits (by decide) (by decide) mem
  simpa [isDigit, Char.isDigit, Char.le_def, UInt32.le_iff_toNat_le] using digit

theorem decimalValue_toDigits (n : Nat) : decimalValue (Nat.toDigits 10 n) = n :=
  Text.foldl_toDigits n

variable (c : PathComponent)

theorem toList_display : c.display.toList =
    Nat.toDigits 10 c.index.toNat ++ if c.hardened then ['\x27'] else [] := by
  unfold display
  rw [String.toList_append, Nat.toString_eq_ofList_toDigits, String.toList_ofList]
  cases c.hardened <;> rfl

theorem numbered_display : Numbered c.display.toList c.index.toNat c.hardened := by
  have value : numeral (Nat.toDigits 10 c.index.toNat) = c.index.toNat := by
    rw [← decimalValue_eq_numeral, decimalValue_toDigits]
  have decimal : ∀ d ∈ Nat.toDigits 10 c.index.toNat, isDigit d = true :=
    fun d mem => isDigit_of_mem_toDigits mem
  rw [toList_display]
  cases hardened : c.hardened with
  | false =>
    have numbered := Numbered.unmarked Nat.toDigits_ne_nil decimal
    rw [value] at numbered
    simpa using numbered
  | true =>
    have closing : isMark '\x27' = true := by decide
    have numbered := Numbered.marked Nat.toDigits_ne_nil decimal closing
    rw [value] at numbered
    simpa using numbered

theorem solid_of_mem_display {d : Char} (mem : d ∈ c.display.toList) :
    Text.isBlank d = false ∧ d ≠ '/' := by
  rw [toList_display, List.mem_append] at mem
  rcases mem with digit | mark
  · obtain ⟨low, high⟩ := isDigit_iff.1 (isDigit_of_mem_toDigits digit)
    refine ⟨?_, ?_⟩
    · simp only [Text.isBlank, Bool.or_eq_false_iff, Bool.and_eq_false_iff, beq_eq_false_iff_ne,
        decide_eq_false_iff_not]
      omega
    · rintro rfl
      exact absurd low (by decide)
  · cases hardened : c.hardened with
    | false => simp [hardened] at mark
    | true =>
      obtain rfl : d = '\x27' := by simpa [hardened] using mark
      decide

theorem trimsTo_display : Text.TrimsTo c.display.toList c.display.toList :=
  Text.trimsTo_self fun _ mem => (solid_of_mem_display c mem).1

theorem slash_not_mem_display : '/' ∉ c.display.toList :=
  fun mem => (solid_of_mem_display c mem).2 rfl

variable {c}

theorem reads_display_of_lt (small : c.index.toNat < 2 ^ 31) : Reads c.display.toList (.ok c) :=
  .index (trimsTo_display c) (numbered_display c) small

theorem reads_display_of_le (large : 2 ^ 31 ≤ c.index.toNat) :
    Reads c.display.toList (.error (.indexOutOfRange c.index.toNat)) :=
  .beyond (trimsTo_display c) (numbered_display c) large (by have := c.index.toNat_lt; omega)

end PathComponent

namespace KeyPath

variable {path : KeyPath}

/-- The texts of the components of a path. -/
def parts (components : List PathComponent) : List (List Char) :=
  components.map (·.display.toList)

theorem toList_display (path : KeyPath) :
    path.display.toList = 'm' :: (parts path.components).flatMap ('/' :: ·) := by
  have written : (path.components.map fun c => "/" ++ c.display).flatMap String.toList =
      (parts path.components).flatMap ('/' :: ·) := by
    rw [parts, List.flatMap_map, List.flatMap_map]
    refine List.flatMap_congr fun c _ => ?_
    rw [String.toList_append]
    rfl
  rw [display, String.toList_append, String.toList_join, written]
  rfl

theorem trimsTo_display (path : KeyPath) :
    Text.TrimsTo path.display.toList ('m' :: (parts path.components).flatMap ('/' :: ·)) := by
  rw [toList_display]
  refine Text.trimsTo_self fun d mem => ?_
  rcases List.mem_cons.1 mem with rfl | mem
  · decide
  · obtain ⟨part, written, mem⟩ := List.mem_flatMap.1 mem
    obtain ⟨c, -, rfl⟩ := List.mem_map.1 written
    rcases List.mem_cons.1 mem with rfl | mem
    · decide
    · exact (PathComponent.solid_of_mem_display c mem).1

theorem slash_not_mem_parts {components : List PathComponent} :
    ∀ part ∈ parts components, '/' ∉ part := by
  intro part written
  obtain ⟨c, -, rfl⟩ := List.mem_map.1 written
  exact PathComponent.slash_not_mem_display c

theorem reads_display (small : ∀ c ∈ path.components, c.index.toNat < 2 ^ 31) :
    Reads path.display (.ok path) := by
  refine .path (trimsTo_display path) (.inl rfl) slash_not_mem_parts ?_
  rw [parts, List.forall₂_map_left_iff, List.forall₂_same]
  exact fun c mem => PathComponent.reads_display_of_lt (small c mem)

theorem reads_display_of_beyond {before after : List PathComponent} {c : PathComponent}
    (split : path.components = before ++ c :: after)
    (small : ∀ b ∈ before, b.index.toNat < 2 ^ 31) (large : 2 ^ 31 ≤ c.index.toNat) :
    Reads path.display (.error (.indexOutOfRange c.index.toNat)) := by
  have pieces : parts path.components = parts before ++ c.display.toList :: parts after := by
    rw [split, parts, List.map_append, List.map_cons]
    rfl
  have trimmed := trimsTo_display path
  have separate : ∀ part ∈ parts path.components, '/' ∉ part := slash_not_mem_parts
  rw [pieces] at trimmed separate
  refine .refused trimmed (.inl rfl) separate (fun other mem => ?_)
    (PathComponent.reads_display_of_le large)
  obtain ⟨b, earlier, rfl⟩ := List.mem_map.1 mem
  exact ⟨b, PathComponent.reads_display_of_lt (small b earlier)⟩

theorem exists_first_beyond {components : List PathComponent}
    (h : ¬ ∀ c ∈ components, c.index.toNat < 2 ^ 31) :
    ∃ before c after, components = before ++ c :: after ∧
      (∀ b ∈ before, b.index.toNat < 2 ^ 31) ∧ 2 ^ 31 ≤ c.index.toNat := by
  induction components with
  | nil => exact absurd nofun h
  | cons c rest ih =>
    by_cases small : c.index.toNat < 2 ^ 31
    · have later : ¬ ∀ c ∈ rest, c.index.toNat < 2 ^ 31 := fun all =>
        h (List.forall_mem_cons.2 ⟨small, all⟩)
      obtain ⟨before, d, after, rfl, earlier, large⟩ := ih later
      exact ⟨c :: before, d, after, rfl, List.forall_mem_cons.2 ⟨small, earlier⟩, large⟩
    · exact ⟨[], c, rest, rfl, nofun, Nat.le_of_not_lt small⟩

theorem parse_display_eq_ok_iff :
    parse path.display = .ok path ↔ ∀ c ∈ path.components, c.index.toNat < 2 ^ 31 := by
  constructor
  · intro parsed
    by_contra beyond
    obtain ⟨before, c, after, split, small, large⟩ := exists_first_beyond beyond
    have refused := (reads_display_of_beyond split small large).parse_eq
    cases parsed.symm.trans refused
  · exact fun small => (reads_display small).parse_eq

theorem parse_display_eq_error_iff {e : PathError} :
    parse path.display = .error e ↔ ∃ before c after, path.components = before ++ c :: after ∧
      (∀ b ∈ before, b.index.toNat < 2 ^ 31) ∧ 2 ^ 31 ≤ c.index.toNat ∧
      e = .indexOutOfRange c.index.toNat := by
  constructor
  · intro refused
    have beyond : ¬ ∀ c ∈ path.components, c.index.toNat < 2 ^ 31 := by
      intro small
      cases (parse_display_eq_ok_iff.2 small).symm.trans refused
    obtain ⟨before, c, after, split, small, large⟩ := exists_first_beyond beyond
    have first := (reads_display_of_beyond split small large).parse_eq
    exact ⟨before, c, after, split, small, large, Except.error.inj (refused.symm.trans first)⟩
  · rintro ⟨before, c, after, split, small, large, rfl⟩
    exact (reads_display_of_beyond split small large).parse_eq

theorem parse_display_of_parse {text : String} (parsed : parse text = .ok path) :
    parse path.display = .ok path := by
  refine parse_display_eq_ok_iff.2 fun c mem => ?_
  exact UInt32.lt_iff_toNat_lt.1 (inRange_of_parse parsed c mem)

/-- A path is read back from its text if and only if every index is below `2 ^ 31`; otherwise its text
is refused for the first index that is not. The path that a text is read as is always read back, and
its text names the same child key as the one that was read. -/
theorem display_names_path (path : KeyPath) :
    (parse path.display = .ok path ↔ ∀ c ∈ path.components, c.index.toNat < 2 ^ 31) ∧
    (∀ e, parse path.display = .error e ↔ ∃ before c after,
      path.components = before ++ c :: after ∧ (∀ b ∈ before, b.index.toNat < 2 ^ 31) ∧
      2 ^ 31 ≤ c.index.toNat ∧ e = .indexOutOfRange c.index.toNat) ∧
    ∀ text, parse text = .ok path → parse path.display = .ok path ∧
      ∀ (S : Suite) (master : MasterKey) (curve : Curve),
        master.find S path.display curve = master.find S text curve := by
  refine ⟨parse_display_eq_ok_iff, fun e => parse_display_eq_error_iff, fun text parsed => ?_⟩
  have again := parse_display_of_parse parsed
  refine ⟨again, fun S master curve => ?_⟩
  unfold MasterKey.find
  rw [again, parsed]

theorem display_names_path_samples :
    let path : KeyPath := ⟨[⟨44, true⟩, ⟨5, false⟩]⟩
    let beyond : KeyPath := ⟨[⟨0, true⟩, ⟨0x80000000, true⟩, ⟨0x80000001, false⟩]⟩
    parse " M/ 0044H\t/5 " = .ok path ∧ parse path.display = .ok path ∧
      parse beyond.display = .error (.indexOutOfRange (2 ^ 31)) := by
  intro path beyond
  have read : parse " M/ 0044H\t/5 " = .ok path := by decide
  obtain ⟨-, -, again⟩ := display_names_path path
  obtain ⟨-, refused, -⟩ := display_names_path beyond
  exact ⟨read, (again _ read).1,
    (refused _).2 ⟨[⟨0, true⟩], ⟨0x80000000, true⟩, [⟨0x80000001, false⟩], by decide⟩⟩

end KeyPath

end CustodySigner
