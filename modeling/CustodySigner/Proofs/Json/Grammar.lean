import CustodySigner.Proofs.Json.Scalar
import Mathlib.Data.Char

set_option autoImplicit false
set_option relaxedAutoImplicit false

/-!
The texts of a JSON value: blanks may stand around every value and every name, and numbers and
strings have several spellings. Each text is read as its value.
-/

namespace CustodySigner.Json

def Blanks (cs : List Char) : Prop :=
  ∀ c ∈ cs, isBlank c = true

theorem blanks_nil : Blanks [] := List.forall_mem_nil _

/-- A member as it is spelled: a name in quotes with blanks around it, and the text of its value. -/
structure SpelledMember where
  name : Option String
  before : List Char
  quoted : List Char
  after : List Char
  value : Json
  text : List Char

namespace SpelledMember

def spelling (m : SpelledMember) : List Char :=
  m.before ++ (m.quoted ++ (m.after ++ ':' :: m.text))

theorem length_text_le (m : SpelledMember) : m.text.length ≤ m.spelling.length := by
  simp only [spelling, List.length_append, List.length_cons]
  omega

/-- The name is spelled as it should be. -/
structure Named (m : SpelledMember) : Prop where
  before : Blanks m.before
  quoted : Quoted m.name m.quoted
  after : Blanks m.after

end SpelledMember

/-- The characters are a text of the value. -/
inductive Spells : Json → List Char → Prop
  | null : Spells .null ['n', 'u', 'l', 'l']
  | yes : Spells (.bool true) ['t', 'r', 'u', 'e']
  | no : Spells (.bool false) ['f', 'a', 'l', 's', 'e']
  | numeral {j : Json} {cs : List Char} (h : Numeral j cs) : Spells j cs
  | quoted {value : Option String} {cs : List Char} (h : Quoted value cs) : Spells (.string value) cs
  | blanks {j : Json} {before cs after : List Char} (h : Blanks before) (inner : Spells j cs)
      (h' : Blanks after) : Spells j (before ++ (cs ++ after))
  | emptyArray {blanks : List Char} (h : Blanks blanks) : Spells (.array []) ('[' :: (blanks ++ [']']))
  | array {first : Json × List Char} {more : List (Json × List Char)} {closing : List Char}
      (each : ∀ p ∈ first :: more, Spells p.1 p.2) (h : Blanks closing) :
      Spells (.array ((first :: more).map (·.1)))
        ('[' :: (first.2 ++ (more.flatMap (fun p => ',' :: p.2) ++ (closing ++ [']']))))
  | emptyObject {blanks : List Char} (h : Blanks blanks) :
      Spells (.object []) ('\x7b' :: (blanks ++ ['\x7d']))
  | object {first : SpelledMember} {more : List SpelledMember} {closing : List Char}
      (named : ∀ m ∈ first :: more, m.Named) (each : ∀ m ∈ first :: more, Spells m.value m.text)
      (h : Blanks closing) :
      Spells (.object ((first :: more).map fun m => (m.name, m.value)))
        ('\x7b' :: (first.spelling ++
          (more.flatMap (fun m => ',' :: m.spelling) ++ (closing ++ ['\x7d']))))

section Steps

variable {fuel : Nat} {cs tail rest blanks : List Char}

theorem skipBlanks_append (h : Blanks blanks) : skipBlanks (blanks ++ rest) = skipBlanks rest :=
  List.dropWhile_append_of_pos h

theorem skipBlanks_cons {c : Char} (h : isBlank c = false) : skipBlanks (c :: rest) = c :: rest := by
  simp [skipBlanks, h]

theorem skipBlanks_append_cons {c : Char} (h : Blanks blanks) (solid : isBlank c = false) :
    skipBlanks (blanks ++ c :: rest) = c :: rest := by
  rw [skipBlanks_append h, skipBlanks_cons solid]

theorem closed_append (h : Blanks blanks) (closed : Closed rest) : Closed (blanks ++ rest) := by
  cases blanks with
  | nil => exact closed
  | cons c more => exact closed_cons (.inl (h c List.mem_cons_self)) _

theorem readValue_append (h : Blanks blanks) :
    readValue fuel (blanks ++ rest) = readValue fuel rest := by
  cases fuel with
  | zero => simp only [readValue]
  | succ fuel => simp only [readValue, skipBlanks_append h]

theorem readValue_quote :
    readValue (fuel + 1) ('\x22' :: tail) =
      (readString tail).map fun (value, rest) => (string value, rest) := by
  have solid : skipBlanks ('\x22' :: tail) = '\x22' :: tail := skipBlanks_cons (by decide)
  simp only [readValue, solid]

theorem readValue_number {c : Char} (head : isDigit c = true ∨ c = '-') :
    readValue (fuel + 1) (c :: tail) = readNumber (c :: tail) := by
  have digit : c ≠ '-' → isDigit c = true := fun other => head.resolve_right other
  -- the head is no blank, and no other kind of value begins with it
  have other : isBlank c = false ∧ c ∉ ['\x22', '[', '\x7b', 'n', 't', 'f'] := by
    constructor
    · by_contra blank
      simp only [isBlank, Bool.not_eq_false, Bool.or_eq_true, beq_iff_eq] at blank
      rcases blank with ((rfl | rfl) | rfl) | rfl <;> exact absurd (digit (by decide)) (by decide)
    · intro mem
      simp only [List.mem_cons, List.not_mem_nil, or_false] at mem
      rcases mem with rfl | rfl | rfl | rfl | rfl | rfl <;>
        exact absurd (digit (by decide)) (by decide)
  rw [readValue, skipBlanks_cons other.1]
  have marks := other.2
  split <;> simp_all

theorem readValue_array {c : Char} {more : List Char} (inner : skipBlanks tail = c :: more)
    (open_ : c ≠ ']') :
    readValue (fuel + 1) ('[' :: tail) =
      (readItems fuel tail).map fun (items, rest) => (array items, rest) := by
  rw [readValue, skipBlanks_cons (by decide)]
  simp only [inner]
  split
  · rename_i same
    exact absurd (List.cons.inj same).1 open_
  · rfl

theorem readValue_object {c : Char} {more : List Char} (inner : skipBlanks tail = c :: more)
    (open_ : c ≠ '\x7d') :
    readValue (fuel + 1) ('\x7b' :: tail) =
      (readMembers fuel tail).map fun (members, rest) => (object members, rest) := by
  rw [readValue, skipBlanks_cons (by decide)]
  simp only [inner]
  split
  · rename_i same
    exact absurd (List.cons.inj same).1 open_
  · rfl

end Steps

section Reading

/-- The value is read from its text as soon as there is fuel for each of its characters, up to blanks
at the end of the text. -/
def Reads (j : Json) (cs : List Char) : Prop :=
  ∀ (fuel : Nat) {rest : List Char}, Closed rest → cs.length ≤ fuel →
    ∃ blanks, Blanks blanks ∧ readValue fuel (cs ++ rest) = some (j, blanks ++ rest)

variable {j : Json} {c : Char} {cs : List Char}

theorem reads_cons (h : ∀ {fuel rest}, Closed rest → cs.length ≤ fuel →
    readValue (fuel + 1) (c :: (cs ++ rest)) = some (j, rest)) : Reads j (c :: cs) := by
  intro fuel rest closed enough
  obtain ⟨fuel, rfl⟩ := Nat.exists_eq_add_of_le' (Nat.one_le_of_lt enough)
  exact ⟨[], blanks_nil, h closed (Nat.le_of_succ_le_succ enough)⟩

theorem SpelledMember.Named.exists_label {m : SpelledMember} (named : m.Named) :
    ∃ inner, (∀ rest, skipBlanks (m.spelling ++ rest) = '\x22' :: (inner ++ rest)) ∧
      ∀ rest, ∃ after, readString (inner ++ rest) = some (m.name, after) ∧
        skipBlanks after = ':' :: (m.text ++ rest) := by
  obtain ⟨before, quoted, after⟩ := named
  obtain ⟨inner, opening, label⟩ := quoted.exists_read
  refine ⟨inner ++ (m.after ++ ':' :: m.text), fun rest => ?opened, fun rest =>
    ⟨m.after ++ ':' :: (m.text ++ rest), ?labelled, skipBlanks_append_cons after (by decide)⟩⟩
  case opened =>
    simp only [SpelledMember.spelling, opening, List.append_assoc, List.cons_append]
    exact skipBlanks_append_cons before (by decide)
  case labelled =>
    simp only [List.append_assoc, List.cons_append]
    exact label _

variable {fuel : Nat} {closing rest : List Char}

theorem readItems_spelled {first : Json × List Char} {more : List (Json × List Char)}
    (each : ∀ p ∈ first :: more, Reads p.1 p.2) (h : Blanks closing)
    (enough : first.2.length + (more.flatMap fun p => ',' :: p.2).length < fuel) :
    readItems fuel (first.2 ++ (more.flatMap (fun p => ',' :: p.2) ++ (closing ++ ']' :: rest))) =
      some ((first :: more).map (·.1), rest) := by
  induction more generalizing first fuel with
  | nil =>
    obtain ⟨fuel, rfl⟩ := Nat.exists_eq_succ_of_ne_zero (Nat.ne_zero_of_lt enough)
    have closed : Closed (closing ++ ']' :: rest) :=
      closed_append h (closed_cons (.inr (.inr (.inl rfl))) rest)
    obtain ⟨blanks, blank, read⟩ := each first List.mem_cons_self fuel closed (by omega)
    have last : skipBlanks (blanks ++ (closing ++ ']' :: rest)) = ']' :: rest := by
      rw [skipBlanks_append blank, skipBlanks_append_cons h (by decide)]
    simp only [List.flatMap_nil, List.nil_append, readItems, read, last]
    rfl
  | cons next more ih =>
    obtain ⟨fuel, rfl⟩ := Nat.exists_eq_succ_of_ne_zero (Nat.ne_zero_of_lt enough)
    simp only [List.flatMap_cons, List.length_append, List.length_cons] at enough
    obtain ⟨blanks, blank, read⟩ := each first List.mem_cons_self fuel
      (closed_cons (.inr (.inl rfl))
        (next.2 ++ (more.flatMap (fun p => ',' :: p.2) ++ (closing ++ ']' :: rest)))) (by omega)
    have comma (tail : List Char) : skipBlanks (blanks ++ ',' :: tail) = ',' :: tail :=
      skipBlanks_append_cons blank (by decide)
    have fewer : next.2.length + (more.flatMap fun p => ',' :: p.2).length < fuel := by omega
    have later := ih (fun p mem => each p (List.mem_cons_of_mem first mem)) fewer
    simp only [List.flatMap_cons, List.cons_append, List.append_assoc, readItems, read, comma, later]
    rfl

section Members

variable {m : SpelledMember} {value : Json} {tail after : List Char} (named : m.Named)
  (read : readValue fuel (m.text ++ rest) = some (value, tail))
include named read

theorem readMembers_last (last : skipBlanks tail = '\x7d' :: after) :
    readMembers (fuel + 1) (m.spelling ++ rest) = some ([(m.name, value)], after) := by
  obtain ⟨inner, opening, label⟩ := named.exists_label
  obtain ⟨behind, label, colon⟩ := label rest
  simp only [readMembers, opening, label, colon, read, last]

theorem readMembers_more (comma : skipBlanks tail = ',' :: after) :
    readMembers (fuel + 1) (m.spelling ++ rest) =
      (readMembers fuel after).map fun p => ((m.name, value) :: p.1, p.2) := by
  obtain ⟨inner, opening, label⟩ := named.exists_label
  obtain ⟨behind, label, colon⟩ := label rest
  simp only [readMembers, opening, label, colon, read, comma]

end Members

theorem readMembers_spelled {first : SpelledMember} {more : List SpelledMember}
    (named : ∀ m ∈ first :: more, m.Named) (each : ∀ m ∈ first :: more, Reads m.value m.text)
    (h : Blanks closing)
    (enough : first.spelling.length + (more.flatMap fun m => ',' :: m.spelling).length < fuel) :
    readMembers fuel (first.spelling ++
      (more.flatMap (fun m => ',' :: m.spelling) ++ (closing ++ '\x7d' :: rest))) =
      some ((first :: more).map (fun m => (m.name, m.value)), rest) := by
  induction more generalizing first fuel with
  | nil =>
    obtain ⟨fuel, rfl⟩ := Nat.exists_eq_succ_of_ne_zero (Nat.ne_zero_of_lt enough)
    have within := first.length_text_le
    have closed : Closed (closing ++ '\x7d' :: rest) :=
      closed_append h (closed_cons (.inr (.inr (.inr rfl))) rest)
    obtain ⟨blanks, blank, read⟩ := each first List.mem_cons_self fuel closed (by omega)
    have last : skipBlanks (blanks ++ (closing ++ '\x7d' :: rest)) = '\x7d' :: rest := by
      rw [skipBlanks_append blank, skipBlanks_append_cons h (by decide)]
    exact readMembers_last (named first List.mem_cons_self) read last
  | cons next more ih =>
    obtain ⟨fuel, rfl⟩ := Nat.exists_eq_succ_of_ne_zero (Nat.ne_zero_of_lt enough)
    have within := first.length_text_le
    simp only [List.flatMap_cons, List.cons_append, List.append_assoc, List.length_append,
      List.length_cons] at enough ⊢
    obtain ⟨blanks, blank, read⟩ := each first List.mem_cons_self fuel
      (closed_cons (.inr (.inl rfl))
        (next.spelling ++ (more.flatMap (fun m => ',' :: m.spelling) ++ (closing ++ '\x7d' :: rest))))
      (by omega)
    have comma (tail : List Char) : skipBlanks (blanks ++ ',' :: tail) = ',' :: tail :=
      skipBlanks_append_cons blank (by decide)
    have fewer : next.spelling.length + (more.flatMap fun m => ',' :: m.spelling).length < fuel := by
      omega
    have later := ih (fun m mem => named m (List.mem_cons_of_mem first mem))
      (fun m mem => each m (List.mem_cons_of_mem first mem)) fewer
    rw [readMembers_more (named first List.mem_cons_self) read (comma _), later]
    rfl

theorem Spells.exists_head {j : Json} {cs : List Char} (spells : Spells j cs) :
    ∃ c more, (∀ rest, skipBlanks (cs ++ rest) = c :: (more ++ rest)) ∧ c ≠ ']' := by
  have solid {c : Char} (more : List Char) (blank : isBlank c = false) (rest : List Char) :
      skipBlanks (c :: more ++ rest) = c :: (more ++ rest) := skipBlanks_cons blank
  induction spells with
  | null => exact ⟨'n', _, solid _ (by decide), by decide⟩
  | yes => exact ⟨'t', _, solid _ (by decide), by decide⟩
  | no => exact ⟨'f', _, solid _ (by decide), by decide⟩
  | numeral h =>
    obtain ⟨c, more, rfl, digit | rfl⟩ := h.exists_head
    · refine ⟨c, more, solid _ ?_, ?_⟩
      · by_contra blank
        simp only [isBlank, Bool.not_eq_false, Bool.or_eq_true, beq_iff_eq] at blank
        rcases blank with ((rfl | rfl) | rfl) | rfl <;> exact absurd digit (by decide)
      · rintro rfl
        exact absurd digit (by decide)
    · exact ⟨'-', more, solid _ (by decide), by decide⟩
  | quoted h =>
    obtain ⟨inner, rfl, -⟩ := h.exists_read
    exact ⟨'\x22', inner, solid _ (by decide), by decide⟩
  | @blanks j before cs after h inner h' ih =>
    obtain ⟨c, more, head, other⟩ := ih
    refine ⟨c, more ++ after, fun rest => ?_, other⟩
    rw [List.append_assoc, skipBlanks_append h, List.append_assoc, head, List.append_assoc]
  | emptyArray h => exact ⟨'[', _, solid _ (by decide), by decide⟩
  | array each h => exact ⟨'[', _, solid _ (by decide), by decide⟩
  | emptyObject h => exact ⟨'\x7b', _, solid _ (by decide), by decide⟩
  | object named each h => exact ⟨'\x7b', _, solid _ (by decide), by decide⟩

/-- Every text of a value is read as it. -/
theorem Spells.reads (spells : Spells j cs) : Reads j cs := by
  induction spells with
  | null => exact reads_cons fun _ _ => rfl
  | yes => exact reads_cons fun _ _ => rfl
  | no => exact reads_cons fun _ _ => rfl
  | numeral h =>
    obtain ⟨c, more, rfl, head⟩ := h.exists_head
    exact reads_cons fun closed _ => (readValue_number head).trans (readNumber_append h closed)
  | quoted h =>
    obtain ⟨inner, rfl, read⟩ := h.exists_read
    refine reads_cons fun _ _ => ?_
    rw [readValue_quote, read]
    rfl
  | @blanks j before cs after h inner h' ih =>
    intro fuel rest closed enough
    simp only [List.length_append] at enough
    obtain ⟨blanks, blank, read⟩ := ih fuel (closed_append h' closed) (by omega)
    refine ⟨blanks ++ after, List.forall_mem_append.2 ⟨blank, h'⟩, ?_⟩
    rw [List.append_assoc, List.append_assoc, readValue_append h, read, List.append_assoc]
  | emptyArray h =>
    refine reads_cons fun {fuel rest} _ _ => ?_
    have closing : skipBlanks (_ ++ ']' :: rest) = ']' :: rest :=
      skipBlanks_append_cons h (by decide)
    rw [List.append_assoc, List.singleton_append, readValue, skipBlanks_cons (by decide)]
    simp only [closing]
  | @array first more closing each h ih =>
    refine reads_cons fun {fuel rest} _ enough => ?_
    simp only [List.length_append, List.length_cons, List.length_nil] at enough
    obtain ⟨c, tail, head, open_⟩ := (each first List.mem_cons_self).exists_head
    simp only [List.cons_append, List.append_assoc, List.nil_append]
    rw [readValue_array (head _) open_, readItems_spelled ih h (by omega)]
    rfl
  | emptyObject h =>
    refine reads_cons fun {fuel rest} _ _ => ?_
    have closing : skipBlanks (_ ++ '\x7d' :: rest) = '\x7d' :: rest :=
      skipBlanks_append_cons h (by decide)
    rw [List.append_assoc, List.singleton_append, readValue, skipBlanks_cons (by decide)]
    simp only [closing]
  | @object first more closing named each h ih =>
    refine reads_cons fun {fuel rest} _ enough => ?_
    simp only [List.length_append, List.length_cons, List.length_nil] at enough
    obtain ⟨inner, head, -⟩ := (named first List.mem_cons_self).exists_label
    simp only [List.cons_append, List.append_assoc, List.nil_append]
    rw [readValue_object (head _) (by decide), readMembers_spelled named ih h (by omega)]
    rfl

theorem Spells.parse_eq {j : Json} {text : String} (spells : Spells j text.toList) :
    parse text = some j := by
  obtain ⟨blanks, blank, read⟩ :=
    spells.reads (text.toList.length + 1) closed_nil (Nat.le_succ _)
  have nothing : skipBlanks blanks = [] := by
    have skipped : skipBlanks (blanks ++ []) = [] := skipBlanks_append blank
    rwa [List.append_nil] at skipped
  rw [List.append_nil, List.append_nil] at read
  unfold parse
  simp only [read, nothing, if_true]

end Reading

section Printable

/-- The character may stand in a text: it is no control character, or it is a blank. -/
def Printable (c : Char) : Prop :=
  ¬ c < ' ' ∨ isBlank c = true

theorem printable_of_le {first c : Char} (above : ' ' ≤ first) (h : first ≤ c) : Printable c :=
  .inl (not_lt.2 (above.trans h))

theorem printable_of_isDigit {c : Char} (digit : isDigit c = true) : Printable c := by
  simp only [isDigit, Bool.and_eq_true, decide_eq_true_eq] at digit
  exact printable_of_le (by decide) digit.1

theorem printable_of_hexValue? {c : Char} {n : Nat} (h : hexValue? c = some n) : Printable c := by
  unfold hexValue? at h
  simp only [Bool.and_eq_true, decide_eq_true_eq] at h
  split at h
  · rename_i range
    exact printable_of_le (by decide) range.1
  · split at h
    · rename_i range
      exact printable_of_le (by decide) range.1
    · split at h
      · rename_i range
        exact printable_of_le (by decide) range.1
      · cases h

theorem printable_of_escaped? {e c : Char} (h : escaped? e = some c) : Printable e := by
  unfold escaped? at h
  simp only [Bool.or_eq_true, beq_iff_eq] at h
  refine .inl fun control => ?_
  have other {d : Char} (above : ' ' ≤ d) : e ≠ d := (lt_of_lt_of_le control above).ne
  simp [other (d := '\x22') (by decide), other (d := '\x5c') (by decide),
    other (d := '/') (by decide), other (d := 'b') (by decide), other (d := 'f') (by decide),
    other (d := 'n') (by decide), other (d := 'r') (by decide), other (d := 't') (by decide)] at h

theorem Piece.Spelled.printable {piece : Piece} {cs : List Char} (spelled : piece.Spelled cs) :
    ∀ c ∈ cs, Printable c := by
  cases spelled with
  | plain quote backslash control =>
    exact List.forall_mem_singleton.2 (.inl control)
  | short h =>
    simp only [List.forall_mem_cons]
    exact ⟨.inl (by decide), printable_of_escaped? h, List.forall_mem_nil _⟩
  | @unit a b c d n h =>
    unfold unit? at h
    split at h
    · rename_i ha hb hc hd
      simp only [List.forall_mem_cons]
      exact ⟨.inl (by decide), .inl (by decide), printable_of_hexValue? ha, printable_of_hexValue? hb,
        printable_of_hexValue? hc, printable_of_hexValue? hd, List.forall_mem_nil _⟩
    · cases h

theorem Quoted.printable {value : Option String} {cs : List Char} (quoted : Quoted value cs) :
    ∀ c ∈ cs, Printable c := by
  obtain ⟨each⟩ := quoted
  simp only [List.forall_mem_cons, List.forall_mem_append]
  refine ⟨.inl (by decide), fun c mem => ?_, .inl (by decide), List.forall_mem_nil _⟩
  obtain ⟨part, listed, mem⟩ := List.mem_flatMap.1 mem
  exact (each part listed).printable c mem

theorem Digits.printable {cs : List Char} (digits : Digits cs) : ∀ c ∈ cs, Printable c :=
  fun c mem => printable_of_isDigit (digits.2 c mem)

theorem Numeral.printable {j : Json} {cs : List Char} (numeral : Numeral j cs) :
    ∀ c ∈ cs, Printable c := by
  cases numeral with
  | natural h => exact h.1.printable
  | @other sign whole fraction exponent signed h point scale form =>
    have first : ∀ c ∈ sign, Printable c := by
      rcases signed with rfl | rfl <;> simp [Printable]
    have second : ∀ c ∈ fraction, Printable c := by
      cases point with
      | absent => exact List.forall_mem_nil _
      | digits digits => exact List.forall_mem_cons.2 ⟨.inl (by decide), digits.printable⟩
    have third : ∀ c ∈ exponent, Printable c := by
      cases scale with
      | absent => exact List.forall_mem_nil _
      | @digits e sign cs letter signed digits =>
        refine List.forall_mem_cons.2 ⟨?_, List.forall_mem_append.2 ⟨?_, digits.printable⟩⟩
        · rcases letter with rfl | rfl <;> exact .inl (by decide)
        · rcases signed with rfl | rfl | rfl <;> simp [Printable]
    simp only [List.forall_mem_append]
    exact ⟨⟨⟨first, h.1.printable⟩, second⟩, third⟩

theorem Blanks.printable {cs : List Char} (h : Blanks cs) : ∀ c ∈ cs, Printable c :=
  fun c mem => .inr (h c mem)

theorem SpelledMember.Named.printable {m : SpelledMember} (named : m.Named)
    (value : ∀ c ∈ m.text, Printable c) : ∀ c ∈ m.spelling, Printable c := by
  simp only [SpelledMember.spelling, List.forall_mem_append, List.forall_mem_cons]
  exact ⟨named.before.printable, named.quoted.printable, named.after.printable, .inl (by decide), value⟩

theorem Spells.printable {j : Json} {cs : List Char} (spells : Spells j cs) :
    ∀ c ∈ cs, Printable c := by
  induction spells with
  | null => simp [Printable]
  | yes => simp [Printable]
  | no => simp [Printable]
  | numeral h => exact h.printable
  | quoted h => exact h.printable
  | blanks h inner h' ih =>
    exact List.forall_mem_append.2 ⟨h.printable, List.forall_mem_append.2 ⟨ih, h'.printable⟩⟩
  | emptyArray h =>
    simp only [List.forall_mem_cons, List.forall_mem_append]
    exact ⟨.inl (by decide), h.printable, .inl (by decide), List.forall_mem_nil _⟩
  | @array first more closing each h ih =>
    simp only [List.forall_mem_cons, List.forall_mem_append, List.mem_flatMap] at ih ⊢
    refine ⟨.inl (by decide), ih.1, ?_, h.printable, .inl (by decide), List.forall_mem_nil _⟩
    rintro c ⟨part, listed, mem⟩
    rcases List.mem_cons.1 mem with rfl | mem
    · exact .inl (by decide)
    · exact ih.2 part listed c mem
  | emptyObject h =>
    simp only [List.forall_mem_cons, List.forall_mem_append]
    exact ⟨.inl (by decide), h.printable, .inl (by decide), List.forall_mem_nil _⟩
  | @object first more closing named each h ih =>
    have spelling : ∀ m ∈ first :: more, ∀ c ∈ m.spelling, Printable c :=
      fun m mem => (named m mem).printable (ih m mem)
    simp only [List.forall_mem_cons, List.forall_mem_append, List.mem_flatMap] at spelling ⊢
    refine ⟨.inl (by decide), spelling.1, ?_, h.printable, .inl (by decide), List.forall_mem_nil _⟩
    rintro c ⟨m, listed, mem⟩
    rcases List.mem_cons.1 mem with rfl | mem
    · exact .inl (by decide)
    · exact spelling.2 m listed c mem

theorem Spells.zero_not_mem {j : Json} {cs : List Char} (spells : Spells j cs) : '\x00' ∉ cs := by
  intro mem
  rcases spells.printable _ mem with control | blank
  · exact control (by decide)
  · exact absurd blank (by decide)

end Printable

end CustodySigner.Json
