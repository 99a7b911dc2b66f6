import CustodySigner.Hex
import CustodySigner.Proofs.Except
import Mathlib.Data.List.Basic

set_option autoImplicit false
set_option relaxedAutoImplicit false

/-!
Hexadecimal text is read back. What is written has two lowercase digits for each byte, and what is
read is any text of pairs of digits in either case. The bytes that are read are those that the text
spells.
-/

namespace CustodySigner

theorem Bytes.ofText_ofList (l : List Char) :
    Bytes.ofText (String.ofList l) = l.flatMap String.utf8EncodeChar := by
  simp [Bytes.ofText, String.toUTF8_eq_toByteArray, List.utf8Encode]

namespace Hex

/-- A digit as it is written. -/
def isDigit (c : Char) : Bool :=
  ('0' ≤ c && c ≤ '9') || ('a' ≤ c && c ≤ 'f')

private theorem isDigit_digit (n : Fin 16) : isDigit (digit n) = true := by
  revert n
  decide

@[simp] theorem length_encode (b : Bytes) : (encode b).length = 2 * b.length := by
  induction b with
  | nil => rfl
  | cons x b ih =>
    simp only [encode, digits, String.length_ofList, List.flatMap_cons, List.length_append,
      List.length_cons, List.length_nil] at ih ⊢
    omega

theorem isDigit_of_mem_encode {b : Bytes} {c : Char} (mem : c ∈ (encode b).toList) :
    isDigit c = true := by
  simp only [encode, digits, String.toList_ofList, List.mem_flatMap] at mem
  obtain ⟨x, -, mem⟩ := mem
  have high : x.toNat / 16 < 16 := by have := x.toNat_lt; omega
  have low : x.toNat % 16 < 16 := Nat.mod_lt _ (by omega)
  simp only [List.mem_cons, List.not_mem_nil, or_false] at mem
  rcases mem with rfl | rfl
  · exact isDigit_digit ⟨_, high⟩
  · exact isDigit_digit ⟨_, low⟩

/-- The text is what the bytes are written as, with any of the letters in upper case. -/
def Spells (cs : List Char) (b : Bytes) : Prop :=
  List.Forall₂ (fun c d => c = d ∨ c = d.toUpper) cs (digits b)

theorem spells_encode (b : Bytes) : Spells (encode b).toList b := by
  unfold Spells encode
  rw [String.toList_ofList, List.forall₂_same]
  exact fun d _ => .inl rfl

private theorem value?_digit (n : Fin 16) (upper : Bool) :
    (String.utf8EncodeChar (if upper then (digit n).toUpper else digit n)).map value? =
      [some (UInt8.ofNat n)] := by
  revert n upper
  decide

private theorem exists_byte {n : Nat} (h : n < 16) {c : Char}
    (spelled : c = digit n ∨ c = (digit n).toUpper) :
    ∃ b, String.utf8EncodeChar c = [b] ∧ value? b = some (UInt8.ofNat n) := by
  rcases spelled with rfl | rfl
  · obtain ⟨b, bytes, value⟩ := List.map_eq_singleton_iff.1 (value?_digit ⟨n, h⟩ false)
    exact ⟨b, bytes, value⟩
  · obtain ⟨b, bytes, value⟩ := List.map_eq_singleton_iff.1 (value?_digit ⟨n, h⟩ true)
    exact ⟨b, bytes, value⟩

private theorem halves (x : UInt8) :
    UInt8.ofNat (x.toNat / 16) * 16 + UInt8.ofNat (x.toNat % 16) = x := by
  apply UInt8.toNat_inj.1
  have := x.toNat_lt
  simp only [UInt8.toNat_add, UInt8.toNat_mul, UInt8.toNat_ofNat']
  have value : (16 : UInt8).toNat = 16 := rfl
  rw [value]
  omega

private theorem spells_cons_iff {cs : List Char} {x : UInt8} {b : Bytes} :
    Spells cs (x :: b) ↔ ∃ high low rest, cs = high :: low :: rest ∧
      (high = digit (x.toNat / 16) ∨ high = (digit (x.toNat / 16)).toUpper) ∧
      (low = digit (x.toNat % 16) ∨ low = (digit (x.toNat % 16)).toUpper) ∧ Spells rest b := by
  unfold Spells digits
  simp only [List.flatMap_cons, List.cons_append, List.nil_append, List.forall₂_cons_right_iff]
  constructor
  · rintro ⟨high, _, first, ⟨low, rest, second, others, rfl⟩, rfl⟩
    exact ⟨high, low, rest, rfl, first, second, others⟩
  · rintro ⟨high, low, rest, rfl, first, second, others⟩
    exact ⟨high, _, first, ⟨low, rest, second, others, rfl⟩, rfl⟩

private theorem decodePairs_of_spells (position : Nat) {cs : List Char} {b : Bytes}
    (h : Spells cs b) : decodePairs position (cs.flatMap String.utf8EncodeChar) = .ok b ∧
      (cs.flatMap String.utf8EncodeChar).length = 2 * b.length := by
  induction b generalizing cs position with
  | nil =>
    obtain rfl := List.forall₂_nil_right_iff.1 h
    exact ⟨rfl, rfl⟩
  | cons x b ih =>
    obtain ⟨high, low, rest, rfl, first, second, others⟩ := spells_cons_iff.1 h
    obtain ⟨highByte, highBytes, highValue⟩ :=
      exists_byte (by have := x.toNat_lt; omega) first
    obtain ⟨lowByte, lowBytes, lowValue⟩ := exists_byte (Nat.mod_lt _ (by decide)) second
    obtain ⟨read, length⟩ := ih (position + 2) others
    simp only [List.flatMap_cons, highBytes, lowBytes, List.cons_append, List.nil_append,
      List.length_cons, length]
    refine ⟨?_, by omega⟩
    rw [decodePairs, highValue, lowValue]
    simp [read, Except.map, halves]

private theorem ofText_eq (s : String) :
    Bytes.ofText s = s.toList.flatMap String.utf8EncodeChar := by
  rw [← Bytes.ofText_ofList, String.ofList_toList]

theorem Spells.decode_eq {s : String} {b : Bytes} (h : Spells s.toList b) : decode s = .ok b := by
  obtain ⟨read, length⟩ := decodePairs_of_spells 0 h
  have even : ¬ (Bytes.ofText s).length % 2 = 1 := by
    rw [ofText_eq, length]
    omega
  simp only [decode, if_neg even]
  rw [ofText_eq, read]

@[simp] theorem decode_encode (b : Bytes) : decode (encode b) = .ok b :=
  (spells_encode b).decode_eq

/-- A digit in either case. -/
def IsEitherCaseDigit (c : Char) : Prop :=
  ('0' ≤ c ∧ c ≤ '9') ∨ ('a' ≤ c ∧ c ≤ 'f') ∨ ('A' ≤ c ∧ c ≤ 'F')

/-- The text is made of pairs of digits. -/
def IsText (s : String) : Prop :=
  s.length % 2 = 0 ∧ ∀ c ∈ s.toList, IsEitherCaseDigit c

private theorem isEitherCaseDigit_iff (c : Char) :
    IsEitherCaseDigit c ↔ (48 ≤ c.toNat ∧ c.toNat ≤ 57) ∨ (97 ≤ c.toNat ∧ c.toNat ≤ 102) ∨
      (65 ≤ c.toNat ∧ c.toNat ≤ 70) := by
  simp only [IsEitherCaseDigit, Char.le_def, UInt32.le_iff_toNat_le]
  rfl

private theorem isSome_value?_iff (b : UInt8) :
    (value? b).isSome = true ↔ (48 ≤ b.toNat ∧ b.toNat ≤ 57) ∨ (97 ≤ b.toNat ∧ b.toNat ≤ 102) ∨
      (65 ≤ b.toNat ∧ b.toNat ≤ 70) := by
  have bounds (low high : UInt8) :
      (decide (low ≤ b) && decide (b ≤ high)) = true ↔
        low.toNat ≤ b.toNat ∧ b.toNat ≤ high.toNat := by
    simp [UInt8.le_iff_toNat_le]
  simp only [value?, bounds, UInt8.reduceToNat]
  split_ifs <;> simp <;> omega

private theorem utf8EncodeChar_of_le {c : Char} (h : c.toNat ≤ 127) :
    String.utf8EncodeChar c = [UInt8.ofNat c.toNat] :=
  if_pos h

private theorem exists_wide_byte {c : Char} (h : 127 < c.toNat) :
    ∃ b ∈ String.utf8EncodeChar c, 128 ≤ b.toNat := by
  -- the last byte of such a character
  refine ⟨UInt8.ofNat (c.toNat % 64 + 128), ?_, ?_⟩
  · have wide : ¬ c.val.toNat ≤ 127 := Nat.not_le.2 h
    simp only [String.utf8EncodeChar, if_neg wide]
    split
    · exact List.mem_cons_of_mem _ List.mem_cons_self
    · split
      · exact List.mem_cons_of_mem _ (List.mem_cons_of_mem _ List.mem_cons_self)
      · exact List.mem_of_getLast? rfl
  · rw [UInt8.toNat_ofNat']
    omega

private theorem all_value?_utf8EncodeChar_iff (c : Char) :
    (∀ b ∈ String.utf8EncodeChar c, (value? b).isSome = true) ↔ IsEitherCaseDigit c := by
  rw [isEitherCaseDigit_iff]
  by_cases narrow : c.toNat ≤ 127
  · have value : (UInt8.ofNat c.toNat).toNat = c.toNat := by
      rw [UInt8.toNat_ofNat']
      omega
    simp only [utf8EncodeChar_of_le narrow, List.mem_singleton, forall_eq, isSome_value?_iff, value]
  · constructor
    · intro all
      obtain ⟨b, mem, wide⟩ := exists_wide_byte (Nat.lt_of_not_le narrow)
      have digit := (isSome_value?_iff b).1 (all b mem)
      omega
    · intro digit
      omega

private theorem length_utf8EncodeChar {c : Char} (h : IsEitherCaseDigit c) :
    (String.utf8EncodeChar c).length = 1 := by
  have narrow : c.toNat ≤ 127 := by
    have := (isEitherCaseDigit_iff c).1 h
    omega
  rw [utf8EncodeChar_of_le narrow, List.length_singleton]

private theorem length_flatMap_utf8EncodeChar {l : List Char} (h : ∀ c ∈ l, IsEitherCaseDigit c) :
    (l.flatMap String.utf8EncodeChar).length = l.length := by
  induction l with
  | nil => rfl
  | cons c l ih =>
    rw [List.flatMap_cons, List.length_append, length_utf8EncodeChar (h c List.mem_cons_self),
      ih fun d mem => h d (List.mem_cons_of_mem c mem), List.length_cons]
    omega

private theorem exists_decodePairs_iff (position : Nat) (b : Bytes) (even : b.length % 2 = 0) :
    (∃ out, decodePairs position b = .ok out) ↔ ∀ x ∈ b, (value? x).isSome = true := by
  fun_induction decodePairs position b with
  | case1 position high low rest bad =>
    simp [bad]
  | case2 position high low rest h bad good =>
    simp [bad]
  | case3 position high low rest h l good good' ih =>
    have even : rest.length % 2 = 0 := by
      simp only [List.length_cons] at even
      omega
    simp only [map_eq_ok_iff, List.mem_cons, forall_eq_or_imp, good, good', Option.isSome_some,
      true_and, ← ih even]
    constructor
    · rintro ⟨out, out', made, -⟩
      exact ⟨out', made⟩
    · rintro ⟨out, made⟩
      exact ⟨_, out, made, rfl⟩
  | case4 b position short =>
    have empty : b = [] := by
      match b, short with
      | [], _ => rfl
      | [x], _ => cases even
      | high :: low :: rest, short => exact absurd rfl (short high low rest)
    simp [empty]

theorem exists_decode_iff (s : String) : (∃ b, decode s = .ok b) ↔ IsText s := by
  have bytes := ofText_eq s
  have digits : (∀ x ∈ Bytes.ofText s, (value? x).isSome = true) ↔
      ∀ c ∈ s.toList, IsEitherCaseDigit c := by
    simp only [bytes, List.mem_flatMap, ← all_value?_utf8EncodeChar_iff]
    constructor
    · intro all c mem x inner
      exact all x ⟨c, mem, inner⟩
    · rintro all x ⟨c, mem, inner⟩
      exact all c mem x inner
  have length (all : ∀ c ∈ s.toList, IsEitherCaseDigit c) : (Bytes.ofText s).length = s.length := by
    rw [bytes, length_flatMap_utf8EncodeChar all, String.length_toList]
  unfold decode
  by_cases odd : (Bytes.ofText s).length % 2 = 1
  · simp only [odd, ↓reduceIte, reduceCtorEq, exists_false, false_iff]
    rintro ⟨even, all⟩
    rw [← length all] at even
    omega
  · simp only [odd, ↓reduceIte]
    rw [exists_decodePairs_iff 0 _ (by omega), digits]
    constructor
    · intro all
      refine ⟨?_, all⟩
      rw [← length all]
      omega
    · rintro ⟨-, all⟩
      exact all

private theorem exists_digit {c : Char} (h : IsEitherCaseDigit c) :
    ∃ n < 16, c = digit n ∨ c = (digit n).toUpper := by
  have spelled : ∀ code : Fin 128, (48 ≤ code.val ∧ code.val ≤ 57) ∨
      (97 ≤ code.val ∧ code.val ≤ 102) ∨ (65 ≤ code.val ∧ code.val ≤ 70) →
      ∃ n : Fin 16, Char.ofNat code = digit n ∨ Char.ofNat code = (digit n).toUpper := by
    decide +kernel
  have bounds := (isEitherCaseDigit_iff c).1 h
  obtain ⟨n, value⟩ := spelled ⟨c.toNat, by omega⟩ bounds
  rw [Char.ofNat_toNat] at value
  exact ⟨n, n.isLt, value⟩

private theorem exists_spells (cs : List Char) (even : cs.length % 2 = 0)
    (all : ∀ c ∈ cs, IsEitherCaseDigit c) : ∃ b, Spells cs b := by
  match cs with
  | [] => exact ⟨[], .nil⟩
  | [_] => cases even
  | high :: low :: rest =>
    simp only [List.forall_mem_cons] at all
    obtain ⟨h, hBound, first⟩ := exists_digit all.1
    obtain ⟨l, lBound, second⟩ := exists_digit all.2.1
    simp only [List.length_cons] at even
    obtain ⟨b, others⟩ := exists_spells rest (by omega) all.2.2
    have value : (UInt8.ofNat (16 * h + l)).toNat = 16 * h + l := by
      rw [UInt8.toNat_ofNat']
      omega
    refine ⟨UInt8.ofNat (16 * h + l) :: b,
      spells_cons_iff.2 ⟨high, low, rest, rfl, ?_, ?_, others⟩⟩
    · rw [value, show (16 * h + l) / 16 = h by omega]
      exact first
    · rw [value, show (16 * h + l) % 16 = l by omega]
      exact second

/-- The bytes that are read are those that the text spells. -/
theorem decode_eq_ok_iff {s : String} {b : Bytes} : decode s = .ok b ↔ Spells s.toList b := by
  constructor
  · intro read
    obtain ⟨even, all⟩ := (exists_decode_iff s).1 ⟨b, read⟩
    rw [← String.length_toList] at even
    obtain ⟨b', spelled⟩ := exists_spells s.toList even all
    obtain rfl := Except.ok.inj (spelled.decode_eq.symm.trans read)
    exact spelled
  · exact Spells.decode_eq

end Hex

end CustodySigner
