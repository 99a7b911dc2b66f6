set_option autoImplicit false
set_option relaxedAutoImplicit false

/-!
Texts that are cut by counting bytes. A cut succeeds exactly between two characters, and then its two
parts make up the text.
-/

namespace CustodySigner.Text

/-- The parts of a text before and after a position that is counted in UTF-8 bytes. There are none if
the position is beyond the end of the text or inside a character. -/
def cut? (text : String) (position : Nat) : Option (String × String) :=
  (text.pos? ⟨position⟩).map fun p => ((text.sliceTo p).copy, (text.sliceFrom p).copy)

private theorem pos?_eq_some_iff {text : String} {offset : String.Pos.Raw} {p : text.Pos} :
    text.pos? offset = some p ↔ p.offset = offset := by
  unfold String.pos? String.Slice.pos?
  constructor
  · intro h
    obtain ⟨q, found, rfl⟩ := Option.map_eq_some_iff.1 h
    split at found
    · obtain rfl := Option.some.inj found
      rfl
    · cases found
  · rintro rfl
    rw [dif_pos (String.Pos.Raw.isValidForSlice_eq_true_iff.2 p.isValid.toSlice)]
    rfl

theorem cut?_eq_some_iff {text front back : String} {position : Nat} :
    cut? text position = some (front, back) ↔
      text = front ++ back ∧ front.utf8ByteSize = position := by
  unfold cut?
  rw [Option.map_eq_some_iff]
  constructor
  · rintro ⟨p, found, parts⟩
    obtain ⟨rfl, rfl⟩ := Prod.mk.inj parts
    have offset := p.splits.offset_eq_rawEndPos
    rw [pos?_eq_some_iff.1 found] at offset
    exact ⟨p.splits.eq_append, (congrArg String.Pos.Raw.byteIdx offset).symm⟩
  · rintro ⟨rfl, rfl⟩
    have valid : front.rawEndPos.IsValid (front ++ back) :=
      String.Pos.Raw.isValid_iff_exists_append.2 ⟨front, back, rfl, rfl⟩
    let p : (front ++ back).Pos := ⟨front.rawEndPos, valid⟩
    have splits : p.Splits front back := ⟨rfl, rfl⟩
    exact ⟨p, pos?_eq_some_iff.2 rfl,
      Prod.ext (p.splits.eq_left splits) (p.splits.eq_right splits)⟩

/-- The character takes two bytes. -/
example : cut? "é" 1 = none := by decide

end CustodySigner.Text
