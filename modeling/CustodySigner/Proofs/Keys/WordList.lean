import CustodySigner.Keys.WordList
import CustodySigner.Proofs.Text.Words
import Mathlib.Data.List.Forall2
import Mathlib.Data.List.Nodup
import Mathlib.Order.Defs.PartialOrder

set_option autoImplicit false
set_option relaxedAutoImplicit false

/-!
The list of words. It has as many words as eleven bits can tell apart, in strict alphabetical order, so
that a place and its word determine each other.
-/

namespace CustodySigner.WordList

private def split (chars : List (List Char)) : List (List Char) :=
  chars.flatMap (Text.fields (· == ' '))

set_option maxRecDepth 100000 in
/-- The lines, character by character, and what is seen there. -/
private theorem exists_spelled : ∃ chars : List (List Char),
    List.Forall₂ (fun line cs => line = String.ofList cs) lines chars ∧
      (split chars).length = 2048 ∧ (split chars).IsChain (· < ·) ∧
      ∀ word ∈ split chars, word ≠ [] ∧ word.any Text.isBlank = false := by
  apply Exists.intro
  apply And.intro
  · unfold lines
    dsimp only
    repeat (apply List.Forall₂.cons; exact rfl)
    exact List.Forall₂.nil
  · decide +kernel

private theorem words_eq_of_spelled {chars : List (List Char)}
    (spelled : List.Forall₂ (fun line cs => line = String.ofList cs) lines chars) :
    words = (split chars).map String.ofList := by
  unfold words split
  generalize lines = rows at spelled
  induction spelled with
  | nil => rfl
  | cons first _ ih =>
    rw [List.flatMap_cons, List.flatMap_cons, List.map_append, ih, first, String.toList_ofList]

private theorem exists_words : ∃ listed : List (List Char), words = listed.map String.ofList ∧
    listed.length = 2048 ∧ listed.Nodup ∧ ∀ word ∈ listed, Text.IsWord word := by
  obtain ⟨chars, spelled, length, ordered, solid⟩ := exists_spelled
  have apart : (split chars).Nodup := by
    refine (List.isChain_iff_pairwise.1 ordered).imp fun {word later} before => ?_
    rintro rfl
    exact List.lt_irrefl word before
  refine ⟨split chars, words_eq_of_spelled spelled, length, apart, fun word mem => ?_⟩
  obtain ⟨nonempty, whole⟩ := solid word mem
  exact ⟨nonempty, by simpa using whole⟩

theorem length_words : words.length = 2048 := by
  obtain ⟨listed, same, length, -⟩ := exists_words
  rw [same, List.length_map, length]

theorem nodup_words : words.Nodup := by
  obtain ⟨listed, same, -, apart, -⟩ := exists_words
  rw [same]
  exact apart.map fun _ _ => String.ofList_injective

theorem isWord_of_mem {word : String} (mem : word ∈ words) : Text.IsWord word.toList := by
  obtain ⟨listed, same, -, -, solid⟩ := exists_words
  rw [same] at mem
  obtain ⟨chars, listed, rfl⟩ := List.mem_map.1 mem
  rw [String.toList_ofList]
  exact solid chars listed

/-- The word stands at the place, counted from zero. -/
def Holds (place : Nat) (word : String) : Prop :=
  words[place]? = some word

theorem Holds.lt {place : Nat} {word : String} (h : Holds place word) : place < 2048 := by
  obtain ⟨bound, -⟩ := List.getElem?_eq_some_iff.1 h
  exact lt_of_lt_of_eq bound length_words

theorem Holds.isWord {place : Nat} {word : String} (h : Holds place word) :
    Text.IsWord word.toList :=
  isWord_of_mem (List.mem_of_getElem? h)

theorem index?_eq_some_iff {word : String} {place : Nat} :
    index? word = some place ↔ Holds place word := by
  unfold index? Holds
  rw [List.findIdx?_eq_some_iff_getElem, List.getElem?_eq_some_iff]
  constructor
  · rintro ⟨bound, here, -⟩
    exact ⟨bound, eq_of_beq here⟩
  · rintro ⟨bound, here⟩
    refine ⟨bound, beq_iff_eq.2 here, fun earlier before found => ?_⟩
    have twice := (eq_of_beq found).trans here.symm
    have same := (nodup_words.getElem_inj_iff).1 twice
    omega

end CustodySigner.WordList
