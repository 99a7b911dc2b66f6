import CustodySigner.Json.Parser
import CustodySigner.Json.Printer
import CustodySigner.Proofs.Text.Decimal
import Mathlib.Data.List.Basic
import Mathlib.Data.List.TakeWhile

set_option autoImplicit false
set_option relaxedAutoImplicit false

/-!
Numbers and strings in JSON texts: how they may be spelled, and that each spelling is read. A number
ends where no digit follows it; a string is spelled in pieces, as they stand or escaped. What is
written is one of the spellings.
-/

namespace CustodySigner.Json

section Numbers

variable {cs rest : List Char}

/-- The text after a value: it is empty, or it begins with a blank or with a mark of the structure
around the value. -/
def Closed (rest : List Char) : Prop :=
  ∀ c ∈ rest.head?, isBlank c = true ∨ c = ',' ∨ c = ']' ∨ c = '\x7d'

theorem closed_nil : Closed [] := by
  intro c mem
  cases mem

theorem closed_cons {c : Char} (h : isBlank c = true ∨ c = ',' ∨ c = ']' ∨ c = '\x7d')
    (rest : List Char) : Closed (c :: rest) := by
  intro d mem
  obtain rfl := Option.some.inj mem
  exact h

theorem Closed.head_ne {c : Char} {rest : List Char} (h : Closed (c :: rest)) :
    isDigit c = false ∧ c ≠ '.' ∧ c ≠ 'e' ∧ c ≠ 'E' := by
  rcases h c rfl with blank | rfl | rfl | rfl
  · simp only [isBlank, Bool.or_eq_true, beq_iff_eq] at blank
    rcases blank with ((rfl | rfl) | rfl) | rfl <;> decide
  · decide
  · decide
  · decide

/-- One or more digits. -/
def Digits (cs : List Char) : Prop :=
  cs ≠ [] ∧ ∀ c ∈ cs, isDigit c = true

/-- Digits may end here. -/
def Stops (rest : List Char) : Prop :=
  ∀ c ∈ rest.head?, isDigit c = false

theorem Closed.stops (h : Closed rest) : Stops rest := by
  intro c mem
  cases rest with
  | nil => cases mem
  | cons d rest =>
    obtain rfl := Option.some.inj mem
    exact h.head_ne.1

theorem readDigits_append (digits : Digits cs) (stop : Stops rest) :
    readDigits (cs ++ rest) = some (cs, rest) := by
  have none_left : rest.takeWhile isDigit = [] ∧ rest.dropWhile isDigit = rest := by
    cases rest with
    | nil => exact ⟨rfl, rfl⟩
    | cons c rest => simp [stop c rfl]
  have front : (cs ++ rest).takeWhile isDigit = cs := by
    rw [List.takeWhile_append_of_pos digits.2, none_left.1, List.append_nil]
  have back : (cs ++ rest).dropWhile isDigit = rest := by
    rw [List.dropWhile_append_of_pos digits.2, none_left.2]
  obtain ⟨c, more, rfl⟩ := List.exists_cons_of_ne_nil digits.1
  unfold readDigits
  rw [front, back]

/-- The digits before the point: a zero stands alone. -/
def Whole (cs : List Char) : Prop :=
  Digits cs ∧ (cs.head? = some '0' → cs = ['0'])

theorem readWhole_append (whole : Whole cs) (stop : Stops rest) :
    readWhole (cs ++ rest) = some (cs, rest) := by
  have read := readDigits_append whole.1 stop
  unfold readWhole
  split
  · rename_i more same
    cases cs with
    | nil => exact absurd rfl whole.1.1
    | cons c cs =>
      obtain ⟨rfl, rfl⟩ := List.cons.inj same
      obtain ⟨-, rfl⟩ := List.cons.inj (whole.2 rfl)
      rfl
  · exact read

/-- Nothing, or a point and digits. -/
inductive Fraction : List Char → Prop
  | absent : Fraction []
  | digits {cs : List Char} (digits : Digits cs) : Fraction ('.' :: cs)

theorem readFraction_append (fraction : Fraction cs) (stop : Stops rest) (point : rest.head? ≠ some '.') :
    readFraction (cs ++ rest) = some (cs, rest) := by
  cases fraction with
  | absent =>
    rw [List.nil_append]
    unfold readFraction
    split
    · exact absurd rfl point
    · rfl
  | digits digits =>
    rw [List.cons_append, readFraction, readDigits_append digits stop]
    rfl

/-- Nothing, or a letter, maybe a sign, and digits. -/
inductive Exponent : List Char → Prop
  | absent : Exponent []
  | digits {e : Char} {sign cs : List Char} (letter : e = 'e' ∨ e = 'E')
      (signed : sign = [] ∨ sign = ['+'] ∨ sign = ['-']) (digits : Digits cs) :
      Exponent (e :: (sign ++ cs))

theorem Exponent.stops (exponent : Exponent cs) (closed : Closed rest) :
    Stops (cs ++ rest) ∧ (cs ++ rest).head? ≠ some '.' := by
  cases exponent with
  | absent =>
    refine ⟨closed.stops, ?_⟩
    cases rest with
    | nil => exact nofun
    | cons c rest => exact fun same => closed.head_ne.2.1 (Option.some.inj same)
  | digits letter =>
    rcases letter with rfl | rfl
    · exact ⟨fun c mem => by obtain rfl := Option.some.inj mem; decide, by simp⟩
    · exact ⟨fun c mem => by obtain rfl := Option.some.inj mem; decide, by simp⟩

theorem readExponent_append (exponent : Exponent cs) (closed : Closed rest) :
    readExponent (cs ++ rest) = some (cs, rest) := by
  cases exponent with
  | absent =>
    cases rest with
    | nil => rfl
    | cons c rest =>
      obtain ⟨-, -, lower, upper⟩ := closed.head_ne
      simp [readExponent, lower, upper]
  | @digits e sign cs letter signed digits =>
    have read := readDigits_append digits closed.stops
    have marked : (e == 'e' || e == 'E') = true := by simpa using letter
    obtain ⟨d, more, rfl⟩ := List.exists_cons_of_ne_nil digits.1
    rcases signed with rfl | rfl | rfl
    · -- the first digit is no sign
      have digit : isDigit d = true := digits.2 d List.mem_cons_self
      have unsigned : (d == '+' || d == '-') = false := by
        rw [Bool.or_eq_false_iff, beq_eq_false_iff_ne, beq_eq_false_iff_ne]
        constructor <;> rintro rfl <;> exact absurd digit (by decide)
      rw [List.cons_append] at read
      simp [readExponent, marked, unsigned, read]
    · rw [List.cons_append] at read
      simp [readExponent, marked, read]
    · rw [List.cons_append] at read
      simp [readExponent, marked, read]

/-- A number: a natural one, or one of another form as it is spelled. -/
inductive Numeral : Json → List Char → Prop
  | natural {whole : List Char} (h : Whole whole) : Numeral (.natural (digitsValue whole)) whole
  | other {sign whole fraction exponent : List Char} (signed : sign = [] ∨ sign = ['-'])
      (h : Whole whole) (point : Fraction fraction) (scale : Exponent exponent)
      (form : sign ≠ [] ∨ fraction ≠ [] ∨ exponent ≠ []) :
      Numeral (.number (String.ofList (sign ++ whole ++ fraction ++ exponent)))
        (sign ++ whole ++ fraction ++ exponent)

theorem readUnsigned_append (sign : List Char) {whole fraction exponent : List Char} (h : Whole whole)
    (point : Fraction fraction) (scale : Exponent exponent) (closed : Closed rest) :
    readUnsigned sign (whole ++ (fraction ++ (exponent ++ rest))) =
      if sign = [] && fraction = [] && exponent = [] then some (natural (digitsValue whole), rest)
      else some (number (String.ofList (sign ++ whole ++ fraction ++ exponent)), rest) := by
  obtain ⟨stop, head⟩ := scale.stops closed
  have stop' : Stops (fraction ++ (exponent ++ rest)) := by
    cases point with
    | absent => exact stop
    | digits _ => exact fun c mem => by obtain rfl := Option.some.inj mem; decide
  simp only [readUnsigned, readWhole_append h stop', readFraction_append point stop head,
    readExponent_append scale closed]

theorem readNumber_of_head {c : Char} (other : c ≠ '-') :
    readNumber (c :: rest) = readUnsigned [] (c :: rest) := by
  unfold readNumber
  split
  · rename_i same
    exact absurd (List.cons.inj same).1 other
  · rfl

theorem readNumber_append {j : Json} (numeral : Numeral j cs) (closed : Closed rest) :
    readNumber (cs ++ rest) = some (j, rest) := by
  have unsigned {whole : List Char} (h : Whole whole) (rest : List Char) :
      readNumber (whole ++ rest) = readUnsigned [] (whole ++ rest) := by
    obtain ⟨d, more, rfl⟩ := List.exists_cons_of_ne_nil h.1.1
    refine readNumber_of_head ?_
    rintro rfl
    exact absurd (h.1.2 '-' List.mem_cons_self) (by decide)
  cases numeral with
  | natural h =>
    have read := readUnsigned_append [] h .absent .absent closed
    rw [unsigned h]
    simpa using read
  | @other sign whole fraction exponent signed h point scale form =>
    have read := readUnsigned_append sign h point scale closed
    have plain : (sign = [] && fraction = [] && exponent = []) = false := by
      rw [Bool.and_assoc, Bool.and_eq_false_iff, Bool.and_eq_false_iff]
      simpa only [decide_eq_false_iff_not] using form
    rw [if_neg (by simpa using plain)] at read
    simp only [List.append_assoc] at read ⊢
    rcases signed with rfl | rfl
    · rw [List.nil_append, unsigned h]
      exact read
    · exact read

theorem Numeral.exists_head {j : Json} (numeral : Numeral j cs) :
    ∃ c more, cs = c :: more ∧ (isDigit c = true ∨ c = '-') := by
  have first {whole : List Char} (h : Whole whole) :
      ∃ c more, whole = c :: more ∧ isDigit c = true := by
    obtain ⟨d, more, rfl⟩ := List.exists_cons_of_ne_nil h.1.1
    exact ⟨d, more, rfl, h.1.2 d List.mem_cons_self⟩
  cases numeral with
  | natural h =>
    obtain ⟨c, more, rfl, digit⟩ := first h
    exact ⟨c, more, rfl, .inl digit⟩
  | @other sign whole fraction exponent signed h point scale form =>
    obtain ⟨c, more, rfl, digit⟩ := first h
    rcases signed with rfl | rfl
    · exact ⟨c, _, rfl, .inl digit⟩
    · exact ⟨'-', _, rfl, .inr rfl⟩

theorem isDigit_of_mem_writeNatural {n : Nat} {c : Char} (mem : c ∈ writeNatural n) :
    isDigit c = true :=
  Nat.isDigit_of_mem_toDigits (by omega) (by omega) mem

theorem digitsValue_writeNatural (n : Nat) : digitsValue (writeNatural n) = n :=
  Text.foldl_toDigits n

theorem writeNatural_ne_zero_cons {n : Nat} (positive : 0 < n) (rest : List Char) :
    writeNatural n ≠ '0' :: rest := by
  induction n using Nat.strongRecOn generalizing rest with
  | ind n ih =>
    unfold writeNatural at ih ⊢
    by_cases small : n < 10
    · rw [Nat.toDigits_of_lt_base small]
      intro same
      have digit := (List.cons.inj same).1
      have nonzero : ∀ m : Fin 10, 0 < m.val → m.val.digitChar ≠ '0' := by decide
      exact nonzero ⟨n, small⟩ positive digit
    · rw [Nat.toDigits_of_base_le (by omega) (by omega)]
      intro same
      cases front : Nat.toDigits 10 (n / 10) with
      | nil => exact Nat.toDigits_ne_nil front
      | cons first more =>
        rw [front, List.cons_append] at same
        obtain ⟨rfl, -⟩ := List.cons.inj same
        exact ih (n / 10) (by omega) (by omega) more front

theorem whole_writeNatural (n : Nat) : Whole (writeNatural n) := by
  refine ⟨⟨Nat.toDigits_ne_nil, fun c => isDigit_of_mem_writeNatural⟩, fun leading => ?_⟩
  rcases Nat.eq_zero_or_pos n with rfl | positive
  · rfl
  · cases digits : writeNatural n with
    | nil => exact absurd digits Nat.toDigits_ne_nil
    | cons d more =>
      rw [digits] at leading
      obtain rfl : d = '0' := Option.some.inj leading
      exact absurd digits (writeNatural_ne_zero_cons positive more)

theorem numeral_writeNatural (n : Nat) : Numeral (.natural n) (writeNatural n) := by
  have numeral := Numeral.natural (whole_writeNatural n)
  rwa [digitsValue_writeNatural] at numeral

end Numbers

section Strings

variable {rest : List Char}

/-- How a piece of a string may be spelled. -/
inductive Piece.Spelled : Piece → List Char → Prop
  | plain {c : Char} (quote : c ≠ '\x22') (backslash : c ≠ '\x5c') (control : ¬ c < ' ') :
      Spelled (.char c) [c]
  | short {e c : Char} (h : escaped? e = some c) : Spelled (.char c) ['\x5c', e]
  | unit {a b c d : Char} {n : Nat} (h : unit? a b c d = some n) :
      Spelled (.unit n) ['\x5c', 'u', a, b, c, d]

/-- A string between quotes; it is no text if a surrogate in it stands alone. -/
inductive Quoted : Option String → List Char → Prop
  | pieces {parts : List (Piece × List Char)} (each : ∀ p ∈ parts, p.1.Spelled p.2) :
      Quoted ((joinPieces (parts.map (·.1))).map String.ofList)
        ('\x22' :: (parts.flatMap (·.2) ++ ['\x22']))

theorem readPieces_spelled {piece : Piece} {spelled : List Char} (h : piece.Spelled spelled)
    (more : List Char) :
    readPieces (spelled ++ more) =
      (readPieces more).map fun (pieces, rest) => (piece :: pieces, rest) := by
  cases h with
  | @plain c quote backslash control =>
    rw [List.singleton_append, readPieces.eq_def]
    split
    · rename_i empty
      cases empty
    · rename_i same
      exact absurd (List.cons.inj same).1 quote
    · rename_i same
      exact absurd (List.cons.inj same).1 backslash
    · rename_i same
      exact absurd (List.cons.inj same).1 backslash
    · rename_i same
      obtain ⟨rfl, rfl⟩ := List.cons.inj same
      simp [backslash, control]
  | @short e c h =>
    rw [List.cons_append, List.singleton_append, readPieces.eq_def]
    split
    · rename_i empty
      cases empty
    · rename_i same
      exact absurd (List.cons.inj same).1 (by decide)
    · rename_i same
      obtain ⟨rfl, -⟩ := List.cons.inj (List.cons.inj same).2
      exact nomatch (show escaped? 'u' = none by decide).symm.trans h
    · rename_i same
      obtain ⟨rfl, rfl⟩ := List.cons.inj (List.cons.inj same).2
      rw [h]
    · rename_i _ _ unescaped same
      obtain ⟨rfl, rfl⟩ := List.cons.inj same
      exact (unescaped e more rfl rfl).elim
  | unit h =>
    simp only [List.cons_append, List.nil_append, readPieces, h]

theorem readPieces_flatMap {parts : List (Piece × List Char)} (each : ∀ p ∈ parts, p.1.Spelled p.2)
    (rest : List Char) :
    readPieces (parts.flatMap (·.2) ++ '\x22' :: rest) = some (parts.map (·.1), rest) := by
  induction parts with
  | nil => rfl
  | cons p parts ih =>
    obtain ⟨first, each⟩ := List.forall_mem_cons.1 each
    rw [List.flatMap_cons, List.append_assoc, readPieces_spelled first, ih each]
    rfl

theorem Quoted.exists_read {value : Option String} {cs : List Char} (quoted : Quoted value cs) :
    ∃ inner, cs = '\x22' :: inner ∧ ∀ rest, readString (inner ++ rest) = some (value, rest) := by
  obtain ⟨each⟩ := quoted
  refine ⟨_, rfl, fun rest => ?_⟩
  unfold readString
  rw [List.append_assoc, List.singleton_append, readPieces_flatMap each]
  rfl

/-- How a character comes out of the reader: a control character without a short form as a unit, any
other as itself. -/
def pieceOf (c : Char) : Piece :=
  if c < ' ' ∧ c ∉ ['\x08', '\x0c', '\n', '\r', '\t'] then .unit c.toNat else .char c

theorem unit?_digits {n : Nat} (h : n < 32) :
    unit? '0' '0' (Hex.digit (n / 16)) (Hex.digit (n % 16)) = some n := by
  have table : ∀ m : Fin 32,
      unit? '0' '0' (Hex.digit (m.val / 16)) (Hex.digit (m.val % 16)) = some m.val := by decide
  exact table ⟨n, h⟩

theorem spelled_writeChar (c : Char) : (pieceOf c).Spelled (writeChar c) := by
  by_cases quote : c = '\x22'
  · subst quote
    exact .short (by decide)
  by_cases backslash : c = '\x5c'
  · subst backslash
    exact .short (by decide)
  by_cases short : c ∈ ['\x08', '\x0c', '\n', '\r', '\t']
  · simp only [List.mem_cons, List.not_mem_nil, or_false] at short
    rcases short with rfl | rfl | rfl | rfl | rfl <;> exact .short (by decide)
  have long : c ≠ '\x08' ∧ c ≠ '\x0c' ∧ c ≠ '\n' ∧ c ≠ '\r' ∧ c ≠ '\t' := by
    simpa using short
  by_cases control : c < ' '
  · have bound : c.toNat < 32 := control
    have written : writeChar c =
        ['\x5c', 'u', '0', '0', Hex.digit (c.toNat / 16), Hex.digit (c.toNat % 16)] := by
      simp [writeChar, quote, backslash, long, control]
    have piece : pieceOf c = .unit c.toNat := if_pos ⟨control, short⟩
    rw [written, piece]
    exact .unit (unit?_digits bound)
  · have written : writeChar c = [c] := by
      simp [writeChar, quote, backslash, long, control]
    have piece : pieceOf c = .char c := if_neg fun h => control h.1
    rw [written, piece]
    exact .plain quote backslash control

theorem joinPieces_unit {n : Nat} (h : n < 0xd800) (rest : List Piece) :
    joinPieces (.unit n :: rest) = (joinPieces rest).map (Char.ofNat n :: ·) := by
  cases rest with
  | nil => simp [joinPieces, Nat.not_le.2 h]
  | cons piece rest =>
    cases piece with
    | char c => simp [joinPieces, Nat.not_le.2 h]
    | unit m =>
      have low : ¬ 0xdc00 ≤ n := by omega
      simp [joinPieces, Nat.not_le.2 h, low]

theorem joinPieces_map_pieceOf (cs : List Char) : joinPieces (cs.map pieceOf) = some cs := by
  induction cs with
  | nil => rfl
  | cons c cs ih =>
    rw [List.map_cons]
    by_cases control : c < ' ' ∧ c ∉ ['\x08', '\x0c', '\n', '\r', '\t']
    · have bound : c.toNat < 32 := control.1
      have piece : pieceOf c = .unit c.toNat := if_pos control
      rw [piece, joinPieces_unit (by omega), ih, Char.ofNat_toNat]
      rfl
    · have piece : pieceOf c = .char c := if_neg control
      rw [piece, joinPieces, ih]
      rfl

theorem quoted_writeString (text : String) : Quoted (some text) (writeString (some text)) := by
  have each : ∀ p ∈ text.toList.map fun c => (pieceOf c, writeChar c), p.1.Spelled p.2 := by
    intro p mem
    obtain ⟨c, -, rfl⟩ := List.mem_map.1 mem
    exact spelled_writeChar c
  have quoted := Quoted.pieces each
  rw [List.map_map, List.flatMap_map] at quoted
  have joined := joinPieces_map_pieceOf text.toList
  simpa [Function.comp_def, joined, writeString] using quoted

end Strings

end CustodySigner.Json
