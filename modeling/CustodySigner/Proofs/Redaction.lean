import CustodySigner.Proofs.Hex
import CustodySigner.Proofs.Text.Blank
import CustodySigner.Proofs.Text.Cut
import CustodySigner.Redaction
import Mathlib.Data.List.DropRight

set_option autoImplicit false
set_option relaxedAutoImplicit false

/-!
What a redacted value shows. Of a long ASCII text it shows the two ends, of a short hash everything, and
of other texts the length alone. Cutting by bytes would give the same, since texts are only cut where
every character is one byte.
-/

namespace CustodySigner

namespace Redaction

section Length

variable {cs : List Char}

theorem byteLength_cons (c : Char) (cs : List Char) :
    byteLength (c :: cs) = c.utf8Size + byteLength cs := by
  unfold byteLength
  rw [Bytes.ofText_ofList, Bytes.ofText_ofList, List.flatMap_cons, List.length_append,
    String.length_utf8EncodeChar]

theorem byteLength_toList (text : String) : byteLength text.toList = text.utf8ByteSize := by
  rw [byteLength, String.ofList_toList, Bytes.ofText, String.toUTF8_eq_toByteArray]
  exact String.size_toByteArray

theorem length_le_byteLength (cs : List Char) : cs.length ≤ byteLength cs := by
  induction cs with
  | nil => exact Nat.zero_le _
  | cons c cs ih =>
    have positive := Char.utf8Size_pos c
    rw [byteLength_cons, List.length_cons]
    omega

theorem byteLength_of_ascii (ascii : isAscii cs = true) : byteLength cs = cs.length := by
  induction cs with
  | nil => rfl
  | cons c cs ih =>
    obtain ⟨single, rest⟩ := Bool.and_eq_true_iff.1 ascii
    have byte : c.utf8Size = 1 := by
      rw [Char.utf8Size_eq_one_iff, UInt32.le_iff_toNat_le]
      exact Nat.le_of_lt_succ (of_decide_eq_true single)
    rw [byteLength_cons, List.length_cons, ih rest, byte, Nat.add_comm]

theorem byteLength_eq_zero_iff : byteLength cs = 0 ↔ cs = [] := by
  constructor
  · intro zero
    have bound := length_le_byteLength cs
    exact List.eq_nil_of_length_eq_zero (by omega)
  · rintro rfl
    rfl

end Length

/-- The number of characters in front that show, which is larger where the text begins with `0x`. -/
def shownFront (marked plain : Nat) (t : List Char) : Nat :=
  if ['0', 'x'] <+: t then marked else plain

theorem shownFront_eq_or (marked plain : Nat) (t : List Char) :
    shownFront marked plain t = marked ∨ shownFront marked plain t = plain := by
  unfold shownFront
  split_ifs <;> simp

theorem hasHexMark_iff {t : List Char} : hasHexMark t = true ↔ ['0', 'x'] <+: t := by
  rw [hasHexMark, beq_iff_eq, List.prefix_iff_eq_take]
  exact eq_comm

theorem ite_hasHexMark (marked plain : Nat) (t : List Char) :
    (if hasHexMark t then marked else plain) = shownFront marked plain t := by
  simp only [hasHexMark_iff, shownFront]

theorem isAscii_iff {t : List Char} : isAscii t = true ↔ ∀ c ∈ t, c.toNat < 128 := by
  simp [isAscii]

theorem hidden_congr {t t' : List Char} (same : byteLength t = byteLength t') :
    hidden t = hidden t' := by
  rw [hidden, hidden, same]

/-- A hidden text is shown as a row of as many stars would be. -/
theorem hidden_eq_stars (t : List Char) :
    hidden t = hidden (List.replicate (byteLength t) '*') := by
  have ascii : isAscii (List.replicate (byteLength t) '*') = true :=
    isAscii_iff.2 fun c mem => List.eq_of_mem_replicate mem ▸ by decide
  refine hidden_congr ?_
  rw [byteLength_of_ascii ascii, List.length_replicate]

section Cases

variable {text : String} {t : List Char} (core : Text.TrimsTo text.toList t)
include core

theorem address_of_long (ascii : isAscii t = true) (long : shownFront 8 6 t + 7 < t.length) :
    address text = ends (shownFront 8 6 t) 4 t := by
  unfold address
  simp only [core.trim_eq, ite_hasHexMark, ascii, decide_eq_true long, Bool.and_self, if_true]

theorem address_of_other (other : ¬ (isAscii t = true ∧ shownFront 8 6 t + 7 < t.length)) :
    address text = hidden t := by
  unfold address
  simp only [core.trim_eq, ite_hasHexMark]
  exact if_neg (by simpa using other)

theorem address_of_nil (empty : t = []) : address text = "[EMPTY]" := by
  subst empty
  rw [address_of_other core (by simp)]
  rfl

theorem hash_of_nil (empty : t = []) : hash text = "[EMPTY]" := by
  subst empty
  unfold hash
  simp only [core.trim_eq, if_true]
  rfl

theorem hash_of_short (nonempty : t ≠ []) (short : byteLength t ≤ 20) :
    hash text = String.ofList t := by
  unfold hash
  simp only [core.trim_eq]
  rw [if_neg nonempty, if_pos short]

theorem hash_of_long (ascii : isAscii t = true) (long : 20 < t.length) :
    hash text = ends (shownFront 12 10 t) 6 t := by
  have wide := length_le_byteLength t
  unfold hash
  simp only [core.trim_eq, ite_hasHexMark, ascii, if_true]
  rw [if_neg (List.ne_nil_of_length_pos (by omega)), if_neg (by omega)]

theorem hash_of_other (other : isAscii t = false) (long : 20 < byteLength t) :
    hash text = hidden t := by
  have nonempty : t ≠ [] := mt byteLength_eq_zero_iff.2 (by omega)
  unfold hash
  simp only [core.trim_eq, other]
  rw [if_neg nonempty, if_neg (by omega), if_neg Bool.false_ne_true]

end Cases

section Middle

/-- Without the blanks around it the text is ASCII and consists of these three parts. -/
structure Consists (text : String) (front middle back : List Char) : Prop where
  core : Text.TrimsTo text.toList (front ++ middle ++ back)
  ascii : isAscii (front ++ middle ++ back) = true

variable {text : String} {front middle back : List Char}

theorem hasHexMark_append (two : 2 ≤ front.length) :
    hasHexMark (front ++ middle ++ back) = hasHexMark front := by
  unfold hasHexMark
  rw [List.append_assoc, List.take_append_of_le_length two]

theorem shownFront_append {marked plain : Nat} (two : 2 ≤ marked ∧ 2 ≤ plain)
    (before : front.length = if hasHexMark front then marked else plain) :
    shownFront marked plain (front ++ middle ++ back) = front.length := by
  have two : 2 ≤ front.length := by split at before <;> omega
  rw [← ite_hasHexMark, hasHexMark_append two, before]

theorem ends_append :
    ends front.length back.length (front ++ middle ++ back) =
      String.ofList front ++ "..." ++ String.ofList back := by
  unfold ends
  rw [List.append_assoc, List.take_left, ← List.append_assoc, List.length_append,
    Nat.add_sub_cancel, List.drop_left]

theorem hash_eq_of_consists (h : Consists text front middle back)
    (before : front.length = if hasHexMark front then 12 else 10) (after : back.length = 6)
    (long : 20 < front.length + middle.length + back.length) :
    hash text = String.ofList front ++ "..." ++ String.ofList back := by
  have shown : shownFront 12 10 (front ++ middle ++ back) = front.length :=
    shownFront_append (by decide) before
  have length : 20 < (front ++ middle ++ back).length := by
    rwa [List.length_append, List.length_append]
  rw [hash_of_long h.core h.ascii length, shown, ← after, ends_append]

theorem address_eq_of_consists (h : Consists text front middle back)
    (before : front.length = if hasHexMark front then 8 else 6) (after : back.length = 4)
    (long : 3 < middle.length) :
    address text = String.ofList front ++ "..." ++ String.ofList back := by
  have shown : shownFront 8 6 (front ++ middle ++ back) = front.length :=
    shownFront_append (by decide) before
  have length : shownFront 8 6 (front ++ middle ++ back) + 7 < (front ++ middle ++ back).length := by
    rw [shown, List.length_append, List.length_append]
    omega
  rw [address_of_long h.core h.ascii length, shown, ← after, ends_append]

theorem consists_append {front middle back : String} (nonempty : front ≠ "" ∧ back ≠ "")
    (solid : front.toList.head?.any Text.isBlank = false ∧
      back.toList.getLast?.any Text.isBlank = false)
    (ends : isAscii front.toList = true ∧ isAscii back.toList = true)
    (ascii : isAscii middle.toList = true) :
    Consists (front ++ middle ++ back) front.toList middle.toList back.toList := by
  refine ⟨⟨[], [], by simp, nofun, nofun, ?_, ?_⟩, ?_⟩
  · rw [List.append_assoc, List.head?_append_of_ne_nil _ (mt String.toList_eq_nil_iff.1 nonempty.1)]
    exact (Option.any_eq_false _ _).1 solid.1
  · rw [List.getLast?_append_of_ne_nil _ (mt String.toList_eq_nil_iff.1 nonempty.2)]
    exact (Option.any_eq_false _ _).1 solid.2
  · unfold isAscii at ends ascii ⊢
    rw [List.all_append, List.all_append, ends.1, ends.2, ascii]
    rfl

end Middle

section Cuts

/-- The first and the last bytes of a text with dots between them. There is no such text where a cut
fails or the text has too few bytes. -/
def endsByBytes? (front back : Nat) (text : String) : Option String := do
  let (first, _) ← Text.cut? text front
  if text.utf8ByteSize < back then none
  else
    let (_, last) ← Text.cut? text (text.utf8ByteSize - back)
    some (first ++ "..." ++ last)

/-- The redaction of an address as it is done by bytes, which fails where a cut does. -/
def addressByBytes? (text : String) : Option String :=
  let t := Text.trim text.toList
  let front := if hasHexMark t then 8 else 6
  if t = [] then some "[EMPTY]"
  else if !isAscii t || byteLength t ≤ front + 4 + 3 then some (value (String.ofList t))
  else endsByBytes? front 4 (String.ofList t)

/-- The redaction of a hash as it is done by bytes, which fails where a cut does. -/
def hashByBytes? (text : String) : Option String :=
  let t := Text.trim text.toList
  if t = [] then some "[EMPTY]"
  else if byteLength t ≤ 20 then some (String.ofList t)
  else if !isAscii t then some (value (String.ofList t))
  else endsByBytes? (if hasHexMark t then 12 else 10) 6 (String.ofList t)

variable {t : List Char} {front back : Nat}

theorem cut?_of_ascii (ascii : isAscii t = true) (within : front ≤ t.length) :
    Text.cut? (String.ofList t) front =
      some (String.ofList (t.take front), String.ofList (t.drop front)) := by
  rw [Text.cut?_eq_some_iff]
  refine ⟨by rw [← String.ofList_append, List.take_append_drop], ?_⟩
  have first : isAscii (t.take front) = true := by
    rw [isAscii_iff] at ascii ⊢
    exact fun c mem => ascii c (List.mem_of_mem_take mem)
  rw [← byteLength_toList, String.toList_ofList, byteLength_of_ascii first,
    List.length_take_of_le within]

theorem endsByBytes?_of_ascii (ascii : isAscii t = true) (within : front + back ≤ t.length) :
    endsByBytes? front back (String.ofList t) = some (ends front back t) := by
  have size : (String.ofList t).utf8ByteSize = t.length := by
    rw [← byteLength_toList, String.toList_ofList, byteLength_of_ascii ascii]
  unfold endsByBytes?
  rw [cut?_of_ascii ascii (by omega), size, cut?_of_ascii ascii (by omega)]
  simp only [bind, Option.bind]
  rw [if_neg (by omega)]
  rfl

theorem value_ofList (t : List Char) : value (String.ofList t) = hidden t := by
  rw [value, String.toList_ofList]

theorem addressByBytes?_eq (text : String) : addressByBytes? text = some (address text) := by
  have core := Text.trimsTo_trim text.toList
  unfold addressByBytes?
  simp only [ite_hasHexMark, Bool.or_eq_true, Bool.not_eq_true', decide_eq_true_eq]
  split_ifs with empty guarded
  · rw [address_of_nil core empty]
  · have other : ¬ (isAscii (Text.trim text.toList) = true ∧
        shownFront 8 6 (Text.trim text.toList) + 7 < (Text.trim text.toList).length) := by
      rintro ⟨ascii, long⟩
      rcases guarded with other | short
      · cases ascii.symm.trans other
      · rw [byteLength_of_ascii ascii] at short
        omega
    rw [address_of_other core other, value_ofList]
  · obtain ⟨ascii, long⟩ := not_or.1 guarded
    rw [Bool.not_eq_false] at ascii
    rw [byteLength_of_ascii ascii] at long
    rw [endsByBytes?_of_ascii ascii (by omega), address_of_long core ascii (by omega)]

theorem hashByBytes?_eq (text : String) : hashByBytes? text = some (hash text) := by
  have core := Text.trimsTo_trim text.toList
  unfold hashByBytes?
  simp only [ite_hasHexMark, Bool.not_eq_true']
  split_ifs with empty short other
  · rw [hash_of_nil core empty]
  · rw [hash_of_short core empty short]
  · rw [hash_of_other core other (not_le.1 short), value_ofList]
  · rw [Bool.not_eq_false] at other
    have front := shownFront_eq_or 12 10 (Text.trim text.toList)
    rw [byteLength_of_ascii other, not_le] at short
    rw [endsByBytes?_of_ascii other (by omega), hash_of_long core other short]

end Cuts

/-- The text is ASCII and has more than `least` bytes. -/
def IsLongAscii (least : Nat) (t : List Char) : Prop :=
  (∀ c ∈ t, c.toNat < 128) ∧ least < byteLength t

/-- What shows of `t` are the first `front` and the last `back` characters, with dots for at least
`least` characters between them. -/
def ShowsEnds (front back least : Nat) (t : List Char) (shown : String) : Prop :=
  ∃ first middle last, t = first ++ middle ++ last ∧ first.length = front ∧ last.length = back ∧
    least ≤ middle.length ∧ shown = String.ofList first ++ "..." ++ String.ofList last

/-- The texts agree on the first `front` and on the last `back` characters. -/
def SameEnds (front back : Nat) (t t' : List Char) : Prop :=
  t.take front = t'.take front ∧ t.rtake back = t'.rtake back

instance instDecidableSameEnds (front back : Nat) (t t' : List Char) :
    Decidable (SameEnds front back t t') :=
  inferInstanceAs (Decidable (_ ∧ _))

section Ends

variable {front back least : Nat} {t t' : List Char}

theorem isLongAscii_iff : IsLongAscii least t ↔ isAscii t = true ∧ least < t.length := by
  unfold IsLongAscii
  rw [← isAscii_iff]
  exact and_congr_right fun ascii => by rw [byteLength_of_ascii ascii]

instance instDecidableIsLongAscii : Decidable (IsLongAscii least t) :=
  decidable_of_iff (isAscii t = true ∧ least < t.length) isLongAscii_iff.symm

theorem showsEnds_ends (long : front + least + back ≤ t.length) :
    ShowsEnds front back least t (ends front back t) := by
  refine ⟨t.take front, (t.drop front).take (t.length - front - back), t.drop (t.length - back),
    ?_, ?_, ?_, ?_, rfl⟩
  · have rest : t.drop (t.length - back) = (t.drop front).drop (t.length - front - back) := by
      rw [List.drop_drop]
      congr 1
      omega
    rw [rest, List.append_assoc, List.take_append_drop, List.take_append_drop]
  · rw [List.length_take]
    omega
  · rw [List.length_drop]
    omega
  · rw [List.length_take, List.length_drop]
    omega

theorem ends_congr (same : SameEnds front back t t') : ends front back t = ends front back t' := by
  obtain ⟨first, last⟩ := same
  unfold List.rtake at last
  rw [ends, ends, first, last]

theorem shownFront_congr {marked plain : Nat} (two : 2 ≤ front)
    (same : t.take front = t'.take front) : shownFront marked plain t = shownFront marked plain t' := by
  have mark (t : List Char) : hasHexMark t = hasHexMark (t.take front) := by
    rw [hasHexMark, hasHexMark, List.take_take, Nat.min_eq_left two]
  rw [← ite_hasHexMark, ← ite_hasHexMark, mark t, mark t', same]

end Ends

/-- The redaction of any text is defined, also where it cuts by bytes. Blanks around the text do not
count. An address shows its ends if it is ASCII and longer than these by more than three characters, and
otherwise nothing but its length in bytes. A hash shows itself up to twenty bytes, its ends if it is
longer and ASCII, and otherwise nothing but its length. Long ASCII texts that agree on their ends are
therefore redacted to the same text. -/
theorem redaction_shows_ends_alone :
    (∀ text, addressByBytes? text = some (address text) ∧ hashByBytes? text = some (hash text)) ∧
    (∃ masked : Nat → String, ∀ (text : String) (t : List Char), Text.TrimsTo text.toList t →
      (t = [] → address text = "[EMPTY]" ∧ hash text = "[EMPTY]") ∧
      (IsLongAscii (shownFront 8 6 t + 7) t →
        ShowsEnds (shownFront 8 6 t) 4 4 t (address text)) ∧
      (t ≠ [] → ¬ IsLongAscii (shownFront 8 6 t + 7) t →
        address text = masked (byteLength t)) ∧
      (t ≠ [] → byteLength t ≤ 20 → hash text = String.ofList t) ∧
      (IsLongAscii 20 t → ShowsEnds (shownFront 12 10 t) 6 3 t (hash text)) ∧
      (20 < byteLength t → ¬ IsLongAscii 20 t → hash text = masked (byteLength t))) ∧
    ∀ (text text' : String) (t t' : List Char),
      Text.TrimsTo text.toList t → Text.TrimsTo text'.toList t' →
      (IsLongAscii (shownFront 8 6 t + 7) t → IsLongAscii (shownFront 8 6 t' + 7) t' →
        SameEnds (shownFront 8 6 t) 4 t t' → address text = address text') ∧
      (IsLongAscii 20 t → IsLongAscii 20 t' →
        SameEnds (shownFront 12 10 t) 6 t t' → hash text = hash text') := by
  simp only [isLongAscii_iff]
  refine ⟨fun text => ⟨addressByBytes?_eq text, hashByBytes?_eq text⟩,
    ⟨fun n => hidden (List.replicate n '*'), fun text t core =>
      ⟨fun empty => ⟨address_of_nil core empty, hash_of_nil core empty⟩, ?_, ?_,
        hash_of_short core, ?_, ?_⟩⟩,
    fun text text' t t' core core' => ⟨?_, ?_⟩⟩
  · rintro ⟨ascii, long⟩
    rw [address_of_long core ascii long]
    exact showsEnds_ends (by omega)
  · intro _ other
    rw [address_of_other core other, hidden_eq_stars]
  · rintro ⟨ascii, long⟩
    have front := shownFront_eq_or 12 10 t
    rw [hash_of_long core ascii long]
    exact showsEnds_ends (by omega)
  · intro long other
    have plain : isAscii t = false := by
      rw [← Bool.not_eq_true]
      exact fun ascii => other ⟨ascii, byteLength_of_ascii ascii ▸ long⟩
    rw [hash_of_other core plain long, hidden_eq_stars]
  · rintro ⟨ascii, long⟩ ⟨ascii', long'⟩ same
    have front := shownFront_eq_or 8 6 t
    rw [address_of_long core ascii long, address_of_long core' ascii' long',
      ← shownFront_congr (by omega) same.1, ends_congr same]
  · rintro ⟨ascii, long⟩ ⟨ascii', long'⟩ same
    have front := shownFront_eq_or 12 10 t
    rw [hash_of_long core ascii long, hash_of_long core' ascii' long',
      ← shownFront_congr (by omega) same.1, ends_congr same]

/-- Two addresses with the same ends, two texts of 23 bytes, of which one has the sixth byte and the
tenth inside a character, a short hash, and a hash of the least length that hides anything. -/
theorem redaction_shows_ends_alone_samples :
    ShowsEnds 8 4 4 "0x012345secret6789".toList (address " 0x012345secret6789\n") ∧
    address " 0x012345secret6789\n" = address "0x012345hidden6789" ∧
    address "abcdeéfgé0123456789ab" = address "ééééééééééé0" ∧
    hash "abcdeéfgé0123456789ab" = hash "ééééééééééé0" ∧
    hash "0x0123456789abcdef01" = "0x0123456789abcdef01" ∧
    ShowsEnds 12 6 3 "0x0123456789~~~abcdef".toList (hash "0x0123456789~~~abcdef") := by
  obtain ⟨-, ⟨masked, views⟩, agree⟩ := redaction_shows_ends_alone
  have trims (text core : String) (trimmed : Text.trim text.toList = core.toList) :
      Text.TrimsTo text.toList core.toList := trimmed ▸ Text.trimsTo_trim _
  have spaced := trims " 0x012345secret6789\n" "0x012345secret6789" (by decide)
  have solid := trims "0x012345hidden6789" "0x012345hidden6789" (by decide)
  obtain ⟨-, -, address₁, -, -, hash₁⟩ := views _ _
    (trims "abcdeéfgé0123456789ab" "abcdeéfgé0123456789ab" (by decide))
  obtain ⟨-, -, address₂, -, -, hash₂⟩ := views _ _
    (trims "ééééééééééé0" "ééééééééééé0" (by decide))
  have bytes : byteLength "abcdeéfgé0123456789ab".toList = byteLength "ééééééééééé0".toList := by
    decide
  refine ⟨(views _ _ spaced).2.1 (by decide),
    (agree _ _ _ _ spaced solid).1 (by decide) (by decide) (by decide), ?_, ?_, ?_, ?_⟩
  · rw [address₁ (by decide) (by decide), address₂ (by decide) (by decide), bytes]
  · rw [hash₁ (by decide) (by decide), hash₂ (by decide) (by decide), bytes]
  · exact (views _ _ (trims "0x0123456789abcdef01" "0x0123456789abcdef01" (by decide))).2.2.2.1
      (by decide) (by decide)
  · exact (views _ _ (trims "0x0123456789~~~abcdef" "0x0123456789~~~abcdef" (by decide))).2.2.2.2.1
      (by decide)

end Redaction

end CustodySigner
