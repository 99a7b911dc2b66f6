import CustodySigner.Proofs.KeyPath
import CustodySigner.Proofs.Text.Blank
import Mathlib.Data.Nat.Digits.Lemmas

set_option autoImplicit false
set_option relaxedAutoImplicit false

/-!
The grammar of derivation paths. What a text is read as is said here without the reader: a root, and
behind each slash a decimal number and at most one mark, with blanks around the text and around each
part. The reader follows this grammar, also where it refuses a text.
-/

namespace CustodySigner

namespace PathComponent

/-- The number that these digits write. -/
def numeral (digits : List Char) : Nat :=
  Nat.ofDigits 10 (digits.reverse.map fun d => d.toNat - 48)

theorem numeral_append_singleton (digits : List Char) (d : Char) :
    numeral (digits ++ [d]) = 10 * numeral digits + (d.toNat - 48) := by
  unfold numeral
  rw [List.reverse_append, List.reverse_singleton, List.singleton_append, List.map_cons,
    Nat.ofDigits_cons]
  omega

theorem decimalValue_eq_numeral (digits : List Char) : decimalValue digits = numeral digits := by
  induction digits using List.reverseRecOn with
  | nil => rfl
  | append_singleton digits d ih =>
    unfold decimalValue at ih ⊢
    rw [List.foldl_append, ih, numeral_append_singleton, List.foldl_cons, List.foldl_nil,
      Nat.mul_comm]

/-- The text writes the number, with a mark behind it or without one. -/
inductive Numbered : List Char → Nat → Bool → Prop
  | unmarked {digits : List Char} (nonempty : digits ≠ [])
      (decimal : ∀ d ∈ digits, isDigit d = true) : Numbered digits (numeral digits) false
  | marked {digits : List Char} {mark : Char} (nonempty : digits ≠ [])
      (decimal : ∀ d ∈ digits, isDigit d = true) (closing : isMark mark = true) :
      Numbered (digits ++ [mark]) (numeral digits) true

/-- What the text of a part is read as. -/
inductive Reads (part : List Char) : Except PathError PathComponent → Prop
  | blank (trimmed : Text.TrimsTo part []) : Reads part (.error .emptyComponent)
  | index {core : List Char} {c : PathComponent} (trimmed : Text.TrimsTo part core)
      (numbered : Numbered core c.index.toNat c.hardened) (small : c.index.toNat < 2 ^ 31) :
      Reads part (.ok c)
  | beyond {core : List Char} {n : Nat} {hardened : Bool} (trimmed : Text.TrimsTo part core)
      (numbered : Numbered core n hardened) (large : 2 ^ 31 ≤ n) (fits : n < 2 ^ 64) :
      Reads part (.error (.indexOutOfRange n))
  | unreadable {core : List Char} (trimmed : Text.TrimsTo part core) (nonempty : core ≠ [])
      (other : ∀ n hardened, Numbered core n hardened → 2 ^ 64 ≤ n) :
      Reads part (.error (.invalidIndex (String.ofList part)))

theorem isDigit_iff {c : Char} : isDigit c = true ↔ 48 ≤ c.toNat ∧ c.toNat ≤ 57 := by
  simp only [isDigit, Char.le_def, UInt32.le_iff_toNat_le, Bool.and_eq_true, decide_eq_true_eq]
  rfl

theorem isMark_of_isDigit {c : Char} (h : isDigit c = true) : isMark c = false := by
  by_contra mark
  simp only [isMark, Bool.not_eq_false, Bool.or_eq_true, beq_iff_eq] at mark
  rcases mark with (rfl | rfl) | rfl <;> exact absurd h (by decide)

theorem splitMark_append {cs : List Char} {mark : Char} (h : isMark mark = true) :
    splitMark (cs ++ [mark]) = (cs, true) := by
  simp [splitMark, h]

theorem splitMark_cases (cs : List Char) :
    (∃ digits mark, isMark mark = true ∧ cs = digits ++ [mark] ∧ splitMark cs = (digits, true)) ∨
      (∀ last ∈ cs.getLast?, isMark last = false) ∧ splitMark cs = (cs, false) := by
  induction cs using List.reverseRecOn with
  | nil => exact .inr ⟨nofun, rfl⟩
  | append_singleton front last =>
    cases mark : isMark last with
    | true => exact .inl ⟨front, last, mark, rfl, splitMark_append mark⟩
    | false => exact .inr ⟨by simpa using mark, by simp [splitMark, mark]⟩

theorem numbered_iff {core : List Char} {n : Nat} {hardened : Bool} :
    Numbered core n hardened ↔ ∃ digits, splitMark core = (digits, hardened) ∧ digits ≠ [] ∧
      (∀ d ∈ digits, isDigit d = true) ∧ decimalValue digits = n := by
  constructor
  · intro numbered
    cases numbered with
    | unmarked nonempty decimal =>
      refine ⟨core, ?_, nonempty, decimal, decimalValue_eq_numeral core⟩
      rcases splitMark_cases core with ⟨digits, mark, closing, rfl, -⟩ | ⟨-, split⟩
      · have digit := decimal mark (by simp)
        rw [isMark_of_isDigit digit] at closing
        cases closing
      · exact split
    | marked nonempty decimal closing =>
      exact ⟨_, splitMark_append closing, nonempty, decimal, decimalValue_eq_numeral _⟩
  · rintro ⟨digits, split, nonempty, decimal, rfl⟩
    rw [decimalValue_eq_numeral]
    rcases splitMark_cases core with ⟨front, mark, closing, rfl, split'⟩ | ⟨-, split'⟩
    · obtain ⟨rfl, rfl⟩ := Prod.mk.inj (split'.symm.trans split)
      exact .marked nonempty decimal closing
    · obtain ⟨rfl, rfl⟩ := Prod.mk.inj (split'.symm.trans split)
      exact .unmarked nonempty decimal

section Parts

variable {part core : List Char}

theorem parse_of_blank (trimmed : Text.trim part = []) : parse part = .error .emptyComponent := by
  simp [parse, trimmed]

theorem parse_of_numbered {n : Nat} {hardened : Bool} (trimmed : Text.trim part = core)
    (numbered : Numbered core n hardened) :
    parse part =
      if 2 ^ 64 ≤ n then .error (.invalidIndex (String.ofList part))
      else if 2 ^ 31 ≤ n then .error (.indexOutOfRange n)
      else .ok ⟨UInt32.ofNat n, hardened⟩ := by
  obtain ⟨digits, split, nonempty, decimal, rfl⟩ := numbered_iff.1 numbered
  have solid : core ≠ [] := by
    rintro rfl
    cases split
    exact nonempty rfl
  have all : digits.all isDigit = true := List.all_eq_true.2 decimal
  simp only [parse, trimmed, solid, split, nonempty, all, ↓reduceIte, decide_false, Bool.not_true,
    Bool.or_self, Bool.false_or, decide_eq_true_eq]
  rfl

theorem parse_of_unnumbered (trimmed : Text.trim part = core) (solid : core ≠ [])
    (unnumbered : ∀ n hardened, ¬ Numbered core n hardened) :
    parse part = .error (.invalidIndex (String.ofList part)) := by
  obtain ⟨digits, hardened, split⟩ : ∃ digits hardened, splitMark core = (digits, hardened) :=
    ⟨_, _, rfl⟩
  have other : (digits = [] || !digits.all isDigit) = true := by
    by_contra number
    simp only [Bool.or_eq_true, decide_eq_true_eq, Bool.not_eq_true', not_or,
      Bool.not_eq_false] at number
    exact unnumbered _ _ (numbered_iff.2 ⟨digits, split, number.1, List.all_eq_true.1 number.2, rfl⟩)
  simp only [parse, trimmed, solid, split, other, ↓reduceIte, Bool.true_or]

theorem Numbered.unique {n n' : Nat} {hardened hardened' : Bool} (h : Numbered core n hardened)
    (h' : Numbered core n' hardened') : n = n' := by
  obtain ⟨digits, split, -, -, rfl⟩ := numbered_iff.1 h
  obtain ⟨digits', split', -, -, rfl⟩ := numbered_iff.1 h'
  rw [(Prod.mk.inj (split.symm.trans split')).1]

theorem Reads.parse_eq {r : Except PathError PathComponent} (h : Reads part r) : parse part = r := by
  cases h with
  | blank trimmed => exact parse_of_blank trimmed.trim_eq
  | index trimmed numbered small =>
    rw [parse_of_numbered trimmed.trim_eq numbered, if_neg (by omega), if_neg (by omega),
      UInt32.ofNat_toNat]
  | beyond trimmed numbered large fits =>
    rw [parse_of_numbered trimmed.trim_eq numbered, if_neg (by omega), if_pos large]
  | @unreadable core trimmed nonempty other =>
    by_cases number : ∃ n hardened, Numbered core n hardened
    · obtain ⟨n, hardened, numbered⟩ := number
      rw [parse_of_numbered trimmed.trim_eq numbered, if_pos (other n hardened numbered)]
    · exact parse_of_unnumbered trimmed.trim_eq nonempty fun n hardened numbered =>
        number ⟨n, hardened, numbered⟩

theorem reads_parse (part : List Char) : Reads part (parse part) := by
  have trimmed := Text.trimsTo_trim part
  by_cases blank : Text.trim part = []
  · rw [parse_of_blank blank]
    exact .blank (blank ▸ trimmed)
  · by_cases number : ∃ n hardened, Numbered (Text.trim part) n hardened
    · obtain ⟨n, hardened, numbered⟩ := number
      rw [parse_of_numbered rfl numbered]
      split_ifs with huge large
      · exact .unreadable trimmed blank fun n' hardened' numbered' =>
          numbered.unique numbered' ▸ huge
      · exact .beyond trimmed numbered large (by omega)
      · have value : (UInt32.ofNat n).toNat = n := by
          rw [UInt32.toNat_ofNat']
          omega
        refine .index trimmed ?_ ?_
        · rwa [value]
        · rw [value]
          omega
    · rw [parse_of_unnumbered rfl blank fun n hardened numbered => number ⟨n, hardened, numbered⟩]
      exact .unreadable trimmed blank fun n hardened numbered =>
        absurd ⟨n, hardened, numbered⟩ number

theorem parse_eq_iff {r : Except PathError PathComponent} : parse part = r ↔ Reads part r := by
  constructor
  · rintro rfl
    exact reads_parse part
  · exact Reads.parse_eq

end Parts

end PathComponent

namespace KeyPath

def IsRoot (c : Char) : Prop :=
  c = 'm' ∨ c = 'M'

/-- What a text is read as. The first part that is refused decides the error. -/
inductive Reads (text : String) : Except PathError KeyPath → Prop
  | path {root : Char} {parts : List (List Char)} {path : KeyPath}
      (trimmed : Text.TrimsTo text.toList (root :: parts.flatMap ('/' :: ·))) (rooted : IsRoot root)
      (separate : ∀ part ∈ parts, '/' ∉ part)
      (read : List.Forall₂ (fun part c => PathComponent.Reads part (.ok c)) parts path.components) :
      Reads text (.ok path)
  | refused {root : Char} {before after : List (List Char)} {part : List Char} {e : PathError}
      (trimmed : Text.TrimsTo text.toList (root :: (before ++ part :: after).flatMap ('/' :: ·)))
      (rooted : IsRoot root) (separate : ∀ other ∈ before ++ part :: after, '/' ∉ other)
      (good : ∀ other ∈ before, ∃ c, PathComponent.Reads other (.ok c))
      (bad : PathComponent.Reads part (.error e)) : Reads text (.error e)
  | unrooted {core : List Char} (trimmed : Text.TrimsTo text.toList core)
      (other : ∀ c ∈ core.head?, ¬ IsRoot c) : Reads text (.error .missingRoot)
  | detached {root c : Char} {rest : List Char}
      (trimmed : Text.TrimsTo text.toList (root :: c :: rest)) (other : c ≠ '/') :
      Reads text (.error .missingRoot)

variable {text : String}

theorem parse_of_parts {root : Char} {parts : List (List Char)}
    (trimmed : Text.trim text.toList = root :: parts.flatMap ('/' :: ·)) (rooted : IsRoot root)
    (separate : ∀ part ∈ parts, '/' ∉ part) :
    parse text = (parts.mapM PathComponent.parse).map KeyPath.mk := by
  have known : (root == 'm' || root == 'M') = true := by simpa [IsRoot] using rooted
  unfold parse
  rw [trimmed]
  simp only [known, ↓reduceIte]
  cases parts with
  | nil => rfl
  | cons part parts =>
    have split : Text.fields (· == '/') (part ++ parts.flatMap ('/' :: ·)) = part :: parts :=
      Text.fields_eq_iff.2 ⟨by rw [List.flatMap_cons, List.cons_append], separate⟩
    simp only [List.flatMap_cons, List.cons_append, split]

theorem parse_of_unrooted {core : List Char} (trimmed : Text.trim text.toList = core)
    (other : ∀ c ∈ core.head?, ¬ IsRoot c) : parse text = .error .missingRoot := by
  unfold parse
  rw [trimmed]
  cases core with
  | nil => rfl
  | cons root rest =>
    have unknown : (root == 'm' || root == 'M') = false := by
      simpa [IsRoot] using other root rfl
    simp only [unknown, Bool.false_eq_true, ↓reduceIte]

theorem parse_of_detached {root c : Char} {rest : List Char}
    (trimmed : Text.trim text.toList = root :: c :: rest) (other : c ≠ '/') :
    parse text = .error .missingRoot := by
  unfold parse
  rw [trimmed]
  dsimp only
  split
  · split
    · rename_i empty
      cases empty
    · rename_i slashed
      exact absurd (List.cons.inj slashed).1 other
    · rfl
  · rfl

theorem root_cases (core : List Char) :
    (∀ c ∈ core.head?, ¬ IsRoot c) ∨ (∃ root c rest, core = root :: c :: rest ∧ c ≠ '/') ∨
      ∃ (root : Char) (parts : List (List Char)), core = root :: parts.flatMap ('/' :: ·) ∧
        IsRoot root ∧ ∀ part ∈ parts, '/' ∉ part := by
  cases core with
  | nil => exact .inl nofun
  | cons root rest =>
    by_cases rooted : IsRoot root
    · refine .inr ?_
      cases rest with
      | nil => exact .inr ⟨root, [], rfl, rooted, nofun⟩
      | cons c rest =>
        by_cases slash : c = '/'
        · subst slash
          obtain ⟨joined, separate⟩ := Text.fields_spec '/' rest
          exact .inr ⟨root, _, congrArg (root :: ·) joined, rooted, separate⟩
        · exact .inl ⟨root, c, rest, rfl, slash⟩
    · exact .inl (by simpa using rooted)

theorem Reads.parse_eq {r : Except PathError KeyPath} (h : Reads text r) : parse text = r := by
  cases h with
  | path trimmed rooted separate read =>
    rw [parse_of_parts trimmed.trim_eq rooted separate, map_eq_ok_iff]
    exact ⟨_, mapM_eq_ok_iff.2 (read.imp fun part c read => read.parse_eq), rfl⟩
  | @refused root before after part e trimmed rooted separate good bad =>
    rw [parse_of_parts trimmed.trim_eq rooted separate, map_eq_error_iff, mapM_eq_error_iff]
    refine ⟨before, part, after, rfl, fun other mem => ?_, bad.parse_eq⟩
    obtain ⟨c, read⟩ := good other mem
    exact ⟨c, read.parse_eq⟩
  | unrooted trimmed other => exact parse_of_unrooted trimmed.trim_eq other
  | detached trimmed other => exact parse_of_detached trimmed.trim_eq other

theorem reads_parse (text : String) : Reads text (parse text) := by
  have trimmed := Text.trimsTo_trim text.toList
  rcases root_cases (Text.trim text.toList) with other | ⟨root, c, rest, core, other⟩ |
    ⟨root, parts, core, rooted, separate⟩
  · rw [parse_of_unrooted rfl other]
    exact .unrooted trimmed other
  · rw [parse_of_detached core other]
    exact .detached (core ▸ trimmed) other
  · have parsed := parse_of_parts core rooted separate
    rw [core] at trimmed
    rw [parsed]
    cases read : parts.mapM PathComponent.parse with
    | ok components =>
      exact .path trimmed rooted separate
        ((mapM_eq_ok_iff.1 read).imp fun part c h => PathComponent.parse_eq_iff.1 h)
    | error e =>
      obtain ⟨before, part, after, rfl, good, bad⟩ := mapM_eq_error_iff.1 read
      refine .refused trimmed rooted separate (fun other mem => ?_) (PathComponent.parse_eq_iff.1 bad)
      obtain ⟨c, h⟩ := good other mem
      exact ⟨c, PathComponent.parse_eq_iff.1 h⟩

/-- The reader follows the grammar: it gives the path that the text writes, and otherwise the error of
its first part that is refused. -/
theorem parse_follows_grammar (text : String) (r : Except PathError KeyPath) :
    parse text = r ↔ Reads text r := by
  constructor
  · rintro rfl
    exact reads_parse text
  · exact Reads.parse_eq

example : parse " M/ 00044H\t/2147483648'/x" = .error (.indexOutOfRange (2 ^ 31)) := by decide

end KeyPath

end CustodySigner
