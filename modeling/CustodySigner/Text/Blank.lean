set_option autoImplicit false
set_option relaxedAutoImplicit false

/-!
Unicode white space: the characters with the property `White_Space`, trimming, and words. Also the
fields of a text between separators.
-/

namespace CustodySigner.Text

/-- The character has the Unicode property `White_Space`. -/
def isBlank (c : Char) : Bool :=
  let n := c.toNat
  (9 ≤ n && n ≤ 13) || n == 0x20 || n == 0x85 || n == 0xa0 || n == 0x1680
    || (0x2000 ≤ n && n ≤ 0x200a) || n == 0x2028 || n == 0x2029 || n == 0x202f
    || n == 0x205f || n == 0x3000

def trim (cs : List Char) : List Char :=
  ((cs.dropWhile isBlank).reverse.dropWhile isBlank).reverse

/-- What stands between the separators, one field more than there are separators. -/
def fields (isSeparator : Char → Bool) : List Char → List (List Char)
  | [] => [[]]
  | c :: rest =>
    if isSeparator c then [] :: fields isSeparator rest
    else
      match fields isSeparator rest with
      | field :: more => (c :: field) :: more
      | [] => [[c]]

/-- The longest stretches without a blank, in order. -/
def words (cs : List Char) : List (List Char) :=
  (fields isBlank cs).filter (· ≠ [])

end CustodySigner.Text
