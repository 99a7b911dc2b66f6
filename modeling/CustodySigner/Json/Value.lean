set_option autoImplicit false
set_option relaxedAutoImplicit false

/-!
JSON values as a text gives them. Objects keep their members in order, repeated names included. A
text may hold surrogates that pair up with nothing; a string that does is no text, yet it may stand
wherever nobody reads it.
-/

namespace CustodySigner

inductive Json where
  | null
  | bool (value : Bool)
  /-- A number with neither sign, fraction nor exponent. -/
  | natural (value : Nat)
  /-- Any other number, as it is written. -/
  | number (digits : String)
  /-- A string, unless it has unpaired surrogates. -/
  | string (value : Option String)
  | array (items : List Json)
  | object (members : List (Option String × Json))
deriving Repr

namespace Json

instance instInhabited : Inhabited Json := ⟨null⟩

def ofText (text : String) : Json := string (some text)

def ofMembers (members : List (String × Json)) : Json :=
  object (members.map fun (name, value) => (some name, value))

end Json

end CustodySigner
