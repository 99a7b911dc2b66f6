import CustodySigner.Proofs.Text.Blank
import CustodySigner.Text.Lowercase

set_option autoImplicit false
set_option relaxedAutoImplicit false

/-!
Words. The words of a text are its stretches between blanks, whatever the blanks are; words that are
joined are found again, also after they were put in lower case.
-/

namespace CustodySigner.Text

/-- A text without blanks. -/
def IsWord (word : List Char) : Prop :=
  word ≠ [] ∧ ∀ c ∈ word, isBlank c = false

/-- The text consists of these words, with blanks between any two of them and maybe at its ends. -/
inductive Worded : List Char → List (List Char) → Prop
  | blank {gap : List Char} (blank : ∀ c ∈ gap, isBlank c = true) : Worded gap []
  | word {gap word rest : List Char} {words : List (List Char)}
      (blank : ∀ c ∈ gap, isBlank c = true) (solid : IsWord word)
      (apart : ∀ c ∈ rest.head?, isBlank c = true) (others : Worded rest words) :
      Worded (gap ++ word ++ rest) (word :: words)

section Words

variable {cs : List Char} {ws : List (List Char)}

theorem words_blank_append {gap : List Char} (blank : ∀ c ∈ gap, isBlank c = true)
    (cs : List Char) : words (gap ++ cs) = words cs := by
  induction gap with
  | nil => rfl
  | cons c gap ih =>
    rw [List.forall_mem_cons] at blank
    have split : fields isBlank (c :: (gap ++ cs)) = [] :: fields isBlank (gap ++ cs) := by
      simp [fields, blank.1]
    unfold words at ih ⊢
    rw [List.cons_append, split, List.filter_cons_of_neg (by simp), ih blank.2]

theorem words_word_append {word rest : List Char} (solid : IsWord word)
    (apart : ∀ c ∈ rest.head?, isBlank c = true) : words (word ++ rest) = word :: words rest := by
  obtain ⟨nonempty, whole⟩ := solid
  cases rest with
  | nil =>
    unfold words
    rw [List.append_nil, fields_of_solid whole, List.filter_cons_of_pos (by simpa using nonempty)]
    rfl
  | cons c rest =>
    have closing := apart c rfl
    have skipped : words ([c] ++ rest) = words rest :=
      words_blank_append (by simpa using closing) rest
    rw [List.singleton_append] at skipped
    rw [skipped]
    unfold words
    rw [fields_append_cons whole closing, List.filter_cons_of_pos (by simpa using nonempty)]

theorem Worded.words_eq (h : Worded cs ws) : words cs = ws := by
  induction h with
  | @blank gap blank =>
    have nothing : words (gap ++ []) = words [] := words_blank_append blank []
    rwa [List.append_nil] at nothing
  | word blank solid apart _ ih =>
    rw [List.append_assoc, words_blank_append blank, words_word_append solid apart, ih]

theorem Worded.unspaced {word rest : List Char} (solid : IsWord word)
    (apart : ∀ c ∈ rest.head?, isBlank c = true) (others : Worded rest ws) :
    Worded (word ++ rest) (word :: ws) := by
  have spaced : Worded ([] ++ word ++ rest) (word :: ws) := .word nofun solid apart others
  rwa [List.nil_append] at spaced

theorem Worded.cons_blank {c : Char} (blank : isBlank c = true) (h : Worded cs ws) :
    Worded (c :: cs) ws := by
  cases h with
  | blank gap => exact .blank (List.forall_mem_cons.2 ⟨blank, gap⟩)
  | @word gap word rest words spaces solid apart others =>
    have wider : ∀ d ∈ c :: gap, isBlank d = true := List.forall_mem_cons.2 ⟨blank, spaces⟩
    exact .word wider solid apart others

theorem Worded.exists_cons_solid {c : Char} (solid : isBlank c = false) (h : Worded cs ws) :
    ∃ ws', Worded (c :: cs) ws' := by
  have single : IsWord [c] := ⟨List.cons_ne_nil c [], by simpa using solid⟩
  cases h with
  | blank blank =>
    have apart : ∀ d ∈ cs.head?, isBlank d = true :=
      fun d first => blank d (List.mem_of_head? first)
    exact ⟨_, .unspaced single apart (.blank blank)⟩
  | @word gap word rest words blank whole apart others =>
    -- without a gap the character begins the first word, and otherwise it is a word of its own
    cases gap with
    | nil =>
      have longer : IsWord (c :: word) :=
        ⟨List.cons_ne_nil c word, List.forall_mem_cons.2 ⟨solid, whole.2⟩⟩
      exact ⟨_, .unspaced longer apart others⟩
    | cons d gap =>
      have spaced : ∀ e ∈ (d :: gap ++ word ++ rest).head?, isBlank e = true := by
        intro e first
        obtain rfl : d = e := by simpa using first
        exact blank d List.mem_cons_self
      exact ⟨_, .unspaced single spaced (.word blank whole apart others)⟩

theorem exists_worded (cs : List Char) : ∃ ws, Worded cs ws := by
  induction cs with
  | nil => exact ⟨[], .blank nofun⟩
  | cons c cs ih =>
    obtain ⟨ws, worded⟩ := ih
    cases blank : isBlank c with
    | true => exact ⟨ws, worded.cons_blank blank⟩
    | false => exact worded.exists_cons_solid blank

/-- The words that are found are those that the text consists of. -/
theorem words_eq_iff : words cs = ws ↔ Worded cs ws := by
  constructor
  · rintro rfl
    obtain ⟨ws, worded⟩ := exists_worded cs
    rwa [worded.words_eq]
  · exact Worded.words_eq

theorem Worded.isWord_of_mem (h : Worded cs ws) {word : List Char} (mem : word ∈ ws) :
    IsWord word := by
  induction h with
  | blank => cases mem
  | word _ solid _ _ ih =>
    rcases List.mem_cons.1 mem with rfl | mem
    · exact solid
    · exact ih mem

theorem worded_intercalate (solid : ∀ word ∈ ws, IsWord word) :
    Worded ([' '].intercalate ws) ws := by
  induction ws with
  | nil => exact .blank nofun
  | cons word rest ih =>
    obtain ⟨first, later⟩ := List.forall_mem_cons.1 solid
    cases rest with
    | nil =>
      have single : Worded (word ++ []) [word] := .unspaced first nofun (.blank nofun)
      rw [List.append_nil] at single
      rwa [List.intercalate_singleton]
    | cons next rest =>
      rw [List.intercalate_cons_cons, List.append_assoc]
      have apart : ∀ c ∈ ([' '] ++ [' '].intercalate (next :: rest)).head?, isBlank c = true := by
        intro c head
        obtain rfl : ' ' = c := by simpa using head
        decide
      exact .unspaced first apart ((ih later).cons_blank (by decide))

end Words

section Lowercase

private theorem isBlank_shifted : ∀ run ∈ CaseTable.lowercase,
    ∀ n ∈ List.range' run.first (run.last + 1 - run.first),
      isBlank (Char.ofNat (n + run.shift).toNat) = false := by
  decide +kernel

theorem isBlank_of_mem_lowercaseChar {c d : Char} (mem : d ∈ lowercaseChar c)
    (blank : isBlank d = true) : isBlank c = true := by
  unfold lowercaseChar at mem
  split_ifs at mem with dotted
  · have solid : ['i', Char.ofNat 0x307].any isBlank = false := by decide
    exact absurd blank (List.any_eq_false.1 solid d mem)
  · split at mem
    · rename_i run found
      have covered := List.find?_some found
      simp only [Bool.and_eq_true, decide_eq_true_eq] at covered
      obtain rfl := List.mem_singleton.1 mem
      have within : c.toNat ∈ List.range' run.first (run.last + 1 - run.first) := by
        rw [List.mem_range'_1]
        omega
      rw [isBlank_shifted run (List.mem_of_find?_eq_some found) _ within] at blank
      cases blank
    · obtain rfl := List.mem_singleton.1 mem
      exact blank

theorem lowercaseChar_ne_nil (c : Char) : lowercaseChar c ≠ [] := by
  unfold lowercaseChar
  split_ifs
  · exact List.cons_ne_nil _ _
  · split <;> exact List.cons_ne_nil _ _

theorem solid_of_mem_lowercase_go {before cs : List Char} (solid : ∀ c ∈ cs, isBlank c = false)
    {d : Char} (mem : d ∈ lowercase.go before cs) : isBlank d = false := by
  induction cs generalizing before with
  | nil => cases mem
  | cons c rest ih =>
    obtain ⟨first, later⟩ := List.forall_mem_cons.1 solid
    unfold lowercase.go at mem
    by_cases sigma : c = Char.ofNat 0x3a3
    · rw [if_pos sigma] at mem
      rcases List.mem_cons.1 mem with rfl | mem
      · split_ifs <;> decide
      · exact ih later mem
    · rw [if_neg sigma] at mem
      rcases List.mem_append.1 mem with mem | mem
      · by_contra blank
        rw [Bool.not_eq_false] at blank
        rw [isBlank_of_mem_lowercaseChar mem blank] at first
        cases first
      · exact ih later mem

theorem IsWord.lowercase {word : List Char} (h : IsWord word) : IsWord (lowercase word) := by
  obtain ⟨nonempty, solid⟩ := h
  refine ⟨?_, fun d mem => solid_of_mem_lowercase_go solid mem⟩
  obtain ⟨c, rest, rfl⟩ := List.exists_cons_of_ne_nil nonempty
  unfold Text.lowercase lowercase.go
  by_cases sigma : c = Char.ofNat 0x3a3
  · rw [if_pos sigma]
    exact List.cons_ne_nil _ _
  · rw [if_neg sigma]
    exact List.append_ne_nil_of_left_ne_nil (lowercaseChar_ne_nil c) _

end Lowercase

end CustodySigner.Text
