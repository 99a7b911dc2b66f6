import CustodySigner.Text.CaseTable

set_option autoImplicit false
set_option relaxedAutoImplicit false

/-!
Full Unicode lowercasing. Each character has a lowercase form of its own, except that a capital
sigma becomes a final sigma at the end of a word.
-/

namespace CustodySigner.Text

private def inSome (table : List (Nat × Nat)) (c : Char) : Bool :=
  table.any fun (first, last) => first ≤ c.toNat && c.toNat ≤ last

/-- The lowercase form of a single character, apart from sigma at the end of a word. -/
def lowercaseChar (c : Char) : List Char :=
  if c = Char.ofNat 0x130 then ['i', Char.ofNat 0x307]
  else
    match CaseTable.lowercase.find? fun run =>
        run.first ≤ c.toNat && c.toNat ≤ run.last && (c.toNat - run.first) % run.step == 0 with
    | some run => [Char.ofNat (c.toNat + run.shift).toNat]
    | none => [c]

/-- The first character that is not case-ignorable has a case. -/
def meetsCased (cs : List Char) : Bool :=
  match cs.dropWhile (inSome CaseTable.caseIgnorable) with
  | c :: _ => inSome CaseTable.cased c
  | [] => false

/-- A capital sigma ends a word when a cased letter comes before it and none comes after. -/
def lowercase (cs : List Char) : List Char :=
  go [] cs
where
  /-- `before` holds what precedes the rest, nearest character first. -/
  go (before : List Char) : List Char → List Char
    | [] => []
    | c :: rest =>
      if c = Char.ofNat 0x3a3 then
        Char.ofNat (if meetsCased before && !meetsCased rest then 0x3c2 else 0x3c3)
          :: go (c :: before) rest
      else lowercaseChar c ++ go (c :: before) rest

end CustodySigner.Text
