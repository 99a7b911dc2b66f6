import CustodySigner.Dict
import CustodySigner.Json.Parser
import CustodySigner.Json.Printer

set_option autoImplicit false
set_option relaxedAutoImplicit false

/-!
Codecs between values and JSON. A record is written as an object with its fields in order; it is
read from an object, where unknown members are passed over and a known one may come once, or from an
array of its fields in order.
-/

namespace CustodySigner

/-- How the values of a type are written and read. -/
structure Codec (α : Type) where
  encode : α → Json
  decode : Json → Option α

namespace Codec

variable {α : Type}

def bool : Codec Bool where
  encode := .bool
  decode
    | .bool value => some value
    | _ => none

def string : Codec String where
  encode := .ofText
  decode
    | .string value => value
    | _ => none

def uint32 : Codec UInt32 where
  encode n := .natural n.toNat
  decode
    | .natural n => if n < 0x100000000 then some (.ofNat n) else none
    | _ => none

def uint64 : Codec UInt64 where
  encode n := .natural n.toNat
  decode
    | .natural n => if n < 0x10000000000000000 then some (.ofNat n) else none
    | _ => none

def unit : Codec Unit where
  encode _ := .null
  decode
    | .null => some ()
    | _ => none

def option (c : Codec α) : Codec (Option α) where
  encode
    | none => .null
    | some value => c.encode value
  decode
    | .null => some none
    | value => (c.decode value).map some

/-- Null is read as the given value. -/
def nullAs (value : α) (c : Codec α) : Codec α where
  encode := c.encode
  decode
    | .null => some value
    | other => c.decode other

def list (c : Codec α) : Codec (List α) where
  encode values := .array (values.map c.encode)
  decode
    | .array items => items.mapM c.decode
    | _ => none

/-- The entries that members stand for. -/
def entries? (c : Codec α) : List (Option String × Json) → Option (List (String × α))
  | [] => some []
  | (none, _) :: _ => none
  | (some key, value) :: rest =>
    match c.decode value with
    | none => none
    | some value => (entries? c rest).map ((key, value) :: ·)

/-- A map is an object; of two members with one name the later one counts. -/
def dict (c : Codec α) : Codec (Dict α) where
  encode d := .ofMembers (d.entries.map fun (key, value) => (key, c.encode value))
  decode
    | .object members => (entries? c members).map Dict.ofList
    | _ => none

/-- One of a few values by its name, also as an object that gives the name the member null. -/
def named (name : α → String) (ofName? : String → Option α) : Codec α where
  encode value := .ofText (name value)
  decode
    | .string (some text) => ofName? text
    | .object [(some text, .null)] => ofName? text
    | _ => none

end Codec

namespace Record

/-- Where a field may be missing. -/
inductive Presence where
  | optional
  /-- In objects, but not in arrays. -/
  | positional
  | required
deriving DecidableEq, Repr

structure Field (ρ : Type) where
  name : String
  presence : Presence
  /-- The value of the field, unless it is left out. -/
  encode : ρ → Option Json
  /-- The record with the field read from a value. -/
  decode : Json → ρ → Option ρ

/-- A field that is always written. -/
def field {ρ α : Type} (name : String) (c : Codec α) (get : ρ → α) (set : α → ρ → ρ)
    (presence : Presence := .optional) : Field ρ where
  name := name
  presence := presence
  encode r := some (c.encode (get r))
  decode value r := (c.decode value).map fun v => set v r

/-- A field that is left out when it is absent. -/
def optionField {ρ α : Type} (name : String) (c : Codec α) (get : ρ → Option α)
    (set : Option α → ρ → ρ) : Field ρ where
  name := name
  presence := .optional
  encode r := (get r).map c.encode
  decode value r := (c.option.decode value).map fun v => set v r

variable {ρ : Type}

/-- Reads members into a record; `seen` are the names of the fields read before. -/
def readMembers (fields : List (Field ρ)) :
    (members : List (Option String × Json)) → (seen : List String) → ρ → Option ρ
  | [], seen, r =>
    if fields.all fun f => f.presence ≠ .required || seen.contains f.name then some r else none
  | (none, _) :: _, _, _ => none
  | (some name, value) :: rest, seen, r =>
    match fields.find? (·.name == name) with
    | none => readMembers fields rest seen r
    | some f =>
      if seen.contains name then none
      else
        match f.decode value r with
        | none => none
        | some r => readMembers fields rest (name :: seen) r

/-- Reads items into the fields of a record in order. -/
def readItems : (fields : List (Field ρ)) → (items : List Json) → ρ → Option ρ
  | fields, [], r => if fields.all fun f => f.presence = .optional then some r else none
  | [], _ :: _, _ => none
  | f :: fields, item :: items, r =>
    match f.decode item r with
    | none => none
    | some r => readItems fields items r

def members (fields : List (Field ρ)) (r : ρ) : List (String × Json) :=
  fields.filterMap fun f => (f.encode r).map fun value => (f.name, value)

/-- The codec of a record type; fields that are missing have the values of `start`. -/
def codec (start : ρ) (fields : List (Field ρ)) : Codec ρ where
  encode r := .ofMembers (members fields r)
  decode
    | .object members => readMembers fields members [] start
    | .array items => readItems fields items start
    | _ => none

end Record

namespace Codec

variable {α : Type}

/-- The JSON text of a value, on one line. -/
def toText (c : Codec α) (value : α) : String :=
  (c.encode value).compact

/-- The value that a JSON text gives. -/
def ofText? (c : Codec α) (text : String) : Option α :=
  (Json.parse text).bind c.decode

end Codec

end CustodySigner
