import CustodySigner.Keys.Mnemonic
import CustodySigner.Proofs.Bits
import CustodySigner.Proofs.Except
import CustodySigner.Proofs.Keys.WordList

set_option autoImplicit false
set_option relaxedAutoImplicit false

/-!
Mnemonics by BIP-39. A sentence is valid if its words write some entropy and the checksum of it, eleven
bits each. What is checked of the words of a phrase is that they join to a valid sentence.
-/

namespace CustodySigner.Mnemonic

/-- One bit of the hash of the entropy for each four bytes of it. -/
def checksum (entropy : Bytes) : List Bool :=
  (Bits.ofBytes (Sha256.digest entropy)).take (entropy.length / 4)

/-- The places of the words in the list write the entropy and its checksum. -/
def Encodes (entropy : Bytes) (words : List String) : Prop :=
  ∃ places : List Nat, List.Forall₂ WordList.Holds places words ∧
    places.flatMap (Bits.ofNat 11) = Bits.ofBytes entropy ++ checksum entropy

/-- The lengths of entropy that have a mnemonic, in bytes. -/
def entropyLengths : List Nat :=
  [16, 20, 24, 28, 32]

/-- The text is an English mnemonic of some entropy. -/
def IsValid (sentence : String) : Prop :=
  ∃ entropy words, entropy.length ∈ entropyLengths ∧ Encodes entropy words ∧
    sentence = " ".intercalate words

section Checksum

variable {places : List Nat} {entropy : Bytes}

/-- The number whose digits the places are. -/
def number (places : List Nat) : Nat :=
  places.foldl (fun n place => n * 2 ^ 11 + place) 0

theorem value_places (bounded : ∀ place ∈ places, place < 2 ^ 11) :
    Bits.value (places.flatMap (Bits.ofNat 11)) = number places :=
  Bits.value_flatMap_ofNat (f := id) bounded

theorem length_places (places : List Nat) :
    (places.flatMap (Bits.ofNat 11)).length = 11 * places.length :=
  Bits.length_flatMap_ofNat 11 id places

theorem length_checksum {thirds : Nat} (size : entropy.length = 4 * thirds) (few : thirds ≤ 8) :
    (checksum entropy).length = thirds := by
  unfold checksum
  rw [List.length_take, Bits.length_ofBytes, Sha256.length_digest]
  omega

theorem value_checksum {thirds : Nat} (size : entropy.length = 4 * thirds) (few : thirds ≤ 8) :
    Bits.value (checksum entropy) =
      Bytes.toNat ((Sha256.digest entropy).take 1) >>> (8 - thirds) := by
  have count : entropy.length / 4 = thirds := by omega
  have size := Sha256.length_digest entropy
  unfold checksum
  rw [count]
  cases hash : Sha256.digest entropy with
  | nil =>
    rw [hash] at size
    cases size
  | cons x rest =>
    have first : (Bits.ofBytes (x :: rest)).take thirds = (Bits.ofBytes [x]).take thirds := by
      unfold Bits.ofBytes
      rw [List.flatMap_cons, List.flatMap_singleton, List.take_append_of_le_length]
      rwa [Bits.length_ofNat]
    rw [first, Bits.value_take, Bits.value_ofBytes, Bits.length_ofBytes, Nat.shiftRight_eq_div_pow]
    rfl

theorem hasChecksum_eq_true_iff {thirds : Nat} (count : places.length = 3 * thirds) :
    hasChecksum places = true ↔ number places % 2 ^ thirds =
      Bytes.toNat ((Sha256.digest (Bytes.ofNat (4 * thirds) (number places / 2 ^ thirds))).take 1)
        >>> (8 - thirds) := by
  have third : places.length / 3 = thirds := by omega
  have digits : places.foldl (fun n index => n * 2048 + index) 0 = number places := rfl
  simp only [hasChecksum, third, digits, beq_iff_eq, Nat.shiftRight_eq_div_pow, Nat.one_shiftLeft]

theorem number_div_lt {thirds : Nat} (count : places.length = 3 * thirds)
    (bounded : ∀ place ∈ places, place < 2 ^ 11) :
    number places / 2 ^ thirds < 256 ^ (4 * thirds) := by
  have bound := Bits.value_lt (places.flatMap (Bits.ofNat 11))
  rw [value_places bounded, length_places, count] at bound
  -- three words have 33 bits, of which one is for the checksum
  have width : 2 ^ thirds * 256 ^ (4 * thirds) = 2 ^ (11 * (3 * thirds)) := by
    rw [show (256 : Nat) = 2 ^ 8 by rfl, ← pow_mul, ← pow_add]
    congr 1
    omega
  exact Nat.div_lt_of_lt_mul (lt_of_lt_of_eq bound width.symm)

theorem hasChecksum_iff {thirds : Nat} (count : places.length = 3 * thirds) (few : thirds ≤ 8)
    (bounded : ∀ place ∈ places, place < 2 ^ 11) :
    hasChecksum places = true ↔ ∃ entropy : Bytes, entropy.length = 4 * thirds ∧
      places.flatMap (Bits.ofNat 11) = Bits.ofBytes entropy ++ checksum entropy := by
  rw [hasChecksum_eq_true_iff count]
  constructor
  · intro agree
    have size : (Bytes.ofNat (4 * thirds) (number places / 2 ^ thirds)).length = 4 * thirds :=
      Bytes.length_ofNat _ _
    -- Words and bytes cut the bits differently, so length and value are compared instead.
    refine ⟨_, size, Bits.eq_of_value_eq ?length ?value⟩
    case length =>
      rw [length_places, count, List.length_append, Bits.length_ofBytes, size,
        length_checksum size few]
      omega
    case value =>
      rw [value_places bounded, Bits.value_append, Bits.value_ofBytes, Bytes.toNat_ofNat,
        Nat.mod_eq_of_lt (number_div_lt count bounded), length_checksum size few,
        value_checksum size few, ← agree, Nat.mul_comm, Nat.div_add_mod]
  · rintro ⟨entropy, size, written⟩
    have front := Bits.value_append_div (Bits.ofBytes entropy) (checksum entropy)
    have back := Bits.value_append_mod (Bits.ofBytes entropy) (checksum entropy)
    rw [← written, value_places bounded, length_checksum size few] at front back
    rw [front, back, Bits.value_ofBytes, ← size, Bytes.ofNat_toNat, value_checksum size few]

end Checksum

-- The list is kept folded, or it would be searched for a word that is not known.
seal WordList.index? in
private theorem indices_of_none {position : Nat} {word : String} {rest : List String}
    (found : WordList.index? word = none) :
    indices position (word :: rest) = .error (.unknownWord position) := by
  conv_lhs => whnf
  rw [found]

seal WordList.index? in
private theorem indices_of_some {position place : Nat} {word : String} {rest : List String}
    (found : WordList.index? word = some place) :
    indices position (word :: rest) = (indices (position + 1) rest).map (place :: ·) := by
  conv_lhs => whnf
  rw [found]

theorem indices_eq_ok_iff {position : Nat} {words : List String} {places : List Nat} :
    indices position words = .ok places ↔ List.Forall₂ WordList.Holds places words := by
  induction words generalizing position places with
  | nil =>
    have nothing : indices position [] = .ok [] := rfl
    rw [List.forall₂_nil_right_iff, nothing, Except.ok.injEq, eq_comm]
  | cons word rest ih =>
    rw [List.forall₂_cons_right_iff]
    cases found : WordList.index? word with
    | none =>
      rw [indices_of_none found]
      simp only [reduceCtorEq, false_iff, not_exists, not_and]
      intro place others listed
      rw [WordList.index?_eq_some_iff.2 listed] at found
      cases found
    | some place =>
      rw [indices_of_some found, map_eq_ok_iff]
      simp only [ih]
      constructor
      · rintro ⟨others, tail, rfl⟩
        exact ⟨place, others, WordList.index?_eq_some_iff.1 found, tail, rfl⟩
      · rintro ⟨place', others, listed, tail, rfl⟩
        have found' := WordList.index?_eq_some_iff.2 listed
        obtain rfl := Option.some.inj (found.symm.trans found')
        exact ⟨others, tail, rfl⟩

theorem thirds_le_of_mem {thirds : Nat} (size : 4 * thirds ∈ entropyLengths) :
    thirds ≤ 8 := by
  simp only [entropyLengths, List.mem_cons, List.not_mem_nil, or_false] at size
  omega

theorem four_dvd_of_mem {size : Nat} (mem : size ∈ entropyLengths) : 4 ∣ size := by
  simp only [entropyLengths, List.mem_cons, List.not_mem_nil, or_false] at mem
  omega

theorem lt_of_listed {places : List Nat} {words : List String}
    (listed : List.Forall₂ WordList.Holds places words) : ∀ place ∈ places, place < 2 ^ 11 := by
  intro place mem
  obtain ⟨word, -, holds⟩ := exists_of_mem_forall₂ listed mem
  exact lt_of_lt_of_eq holds.lt (by decide)

theorem worded_sentence {words : List String} (solid : ∀ word ∈ words, Text.IsWord word.toList) :
    Text.Worded (" ".intercalate words).toList (words.map String.toList) := by
  rw [String.toList_intercalate]
  refine Text.worded_intercalate fun chars mem => ?_
  obtain ⟨word, listed, rfl⟩ := List.mem_map.1 mem
  exact solid word listed

theorem isWordCount_iff {n : Nat} :
    isWordCount n = true ↔ ∃ thirds, n = 3 * thirds ∧ 4 * thirds ∈ entropyLengths := by
  simp only [isWordCount, entropyLengths, Bool.and_eq_true, decide_eq_true_eq, beq_iff_eq,
    List.mem_cons, List.not_mem_nil, or_false]
  constructor
  · rintro ⟨⟨least, most⟩, whole⟩
    exact ⟨n / 3, by omega, by omega⟩
  · rintro ⟨thirds, rfl, size⟩
    omega

private theorem check_eq_ok_iff_parts {words : List String} : check words = .ok () ↔
    isWordCount words.length = true ∧ ∃ places, indices 0 words = .ok places ∧
      hasChecksum places = true := by
  unfold check
  cases counted : isWordCount words.length with
  | false => simp [bind, Except.bind, throw, throwThe, MonadExceptOf.throw]
  | true =>
    simp only [Bool.not_true, Bool.false_eq_true, ↓reduceIte, true_and]
    rw [bind_eq_ok_iff]
    refine exists_congr fun places => and_congr_right fun _ => ?_
    cases hasChecksum places <;> simp [throw, throwThe, MonadExceptOf.throw, pure, Except.pure]

/-- The words pass the check if and only if they encode some entropy. -/
theorem check_eq_ok_iff {words : List String} :
    check words = .ok () ↔ ∃ entropy, entropy.length ∈ entropyLengths ∧ Encodes entropy words := by
  rw [check_eq_ok_iff_parts, isWordCount_iff]
  simp only [indices_eq_ok_iff]
  constructor
  · rintro ⟨⟨thirds, count, size⟩, places, listed, agree⟩
    have few : thirds ≤ 8 := thirds_le_of_mem size
    rw [← listed.length_eq] at count
    obtain ⟨entropy, length, written⟩ := (hasChecksum_iff count few (lt_of_listed listed)).1 agree
    exact ⟨entropy, length ▸ size, places, listed, written⟩
  · rintro ⟨entropy, size, places, listed, written⟩
    obtain ⟨thirds, length⟩ : ∃ thirds, entropy.length = 4 * thirds := four_dvd_of_mem size
    rw [length] at size
    have few : thirds ≤ 8 := thirds_le_of_mem size
    have count : places.length = 3 * thirds := by
      have bits := congrArg List.length written
      rw [length_places, List.length_append, Bits.length_ofBytes, length,
        length_checksum length few] at bits
      omega
    refine ⟨⟨thirds, ?_, size⟩, places, listed, ?_⟩
    · rw [← listed.length_eq, count]
    · exact (hasChecksum_iff count few (lt_of_listed listed)).2 ⟨entropy, length, written⟩

theorem check_eq_ok_iff_isValid {words : List String}
    (solid : ∀ word ∈ words, Text.IsWord word.toList) :
    check words = .ok () ↔ IsValid (" ".intercalate words) := by
  rw [check_eq_ok_iff]
  constructor
  · rintro ⟨entropy, size, encoded⟩
    exact ⟨entropy, words, size, encoded, rfl⟩
  · rintro ⟨entropy, words', size, encoded, same⟩
    have solid' : ∀ word ∈ words', Text.IsWord word.toList := by
      obtain ⟨places, listed, -⟩ := encoded
      intro word mem
      obtain ⟨place, -, holds⟩ := exists_of_mem_right_forall₂ listed mem
      exact holds.isWord
    have texts : words.map String.toList = words'.map String.toList := by
      rw [← (worded_sentence solid).words_eq, same, (worded_sentence solid').words_eq]
    have injective : Function.Injective String.toList := fun _ _ => String.toList_injective
    obtain rfl := List.map_injective_iff.2 injective texts
    exact ⟨entropy, size, encoded⟩

end CustodySigner.Mnemonic
