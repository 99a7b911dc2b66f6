import CustodySigner.Json.Parser
import CustodySigner.Json.Printer

set_option autoImplicit false
set_option relaxedAutoImplicit false

/-!
The two ways of writing a value, on one line and on many, are layouts: they differ in the blanks
that they put between the parts of the value.
-/

namespace CustodySigner.Json

/-- What holds of an array or an object when it holds of all that is in it holds of every value. -/
theorem induction_on {P : Json → Prop} (null : P .null) (bool : ∀ value, P (.bool value))
    (natural : ∀ value, P (.natural value)) (number : ∀ digits, P (.number digits))
    (string : ∀ value, P (.string value))
    (array : ∀ items : List Json, (∀ item ∈ items, P item) → P (.array items))
    (object : ∀ members : List (Option String × Json), (∀ m ∈ members, P m.2) → P (.object members))
    (j : Json) : P j :=
  match j with
  | .null => null
  | .bool value => bool value
  | .natural value => natural value
  | .number digits => number digits
  | .string value => string value
  | .array items =>
    array items fun item _ => induction_on null bool natural number string array object item
  | .object members =>
    object members fun m _ => induction_on null bool natural number string array object m.2
termination_by sizeOf j
decreasing_by
  · have inner := List.sizeOf_lt_of_mem ‹item ∈ items›
    simp only [Json.array.sizeOf_spec]
    omega
  · have inner := List.sizeOf_lt_of_mem ‹m ∈ members›
    obtain ⟨name, value⟩ := m
    simp only [Prod.mk.sizeOf_spec, Json.object.sizeOf_spec] at inner ⊢
    omega

/-- The blanks between the parts of a value. -/
structure Layout where
  /-- What stands before the parts of a value at a level, and before its closing mark. -/
  gap : (level : Nat) → List Char
  /-- What stands between a colon and the value of a member. -/
  space : List Char
  blank_gap : ∀ level, ∀ c ∈ gap level, isBlank c = true
  blank_space : ∀ c ∈ space, isBlank c = true

namespace Layout

def compact : Layout where
  gap _ := []
  space := []
  blank_gap := by simp
  blank_space := by simp

def pretty : Layout where
  gap := newLine
  space := [' ']
  blank_gap := by simp [newLine, isBlank]
  blank_space := by simp [isBlank]

variable (L : Layout)

mutual

/-- A value in the layout; what it contains is one level deeper. -/
def write (level : Nat) : Json → List Char
  | .array (item :: rest) =>
    '[' :: (L.gap (level + 1) ++ write (level + 1) item ++ writeItems (level + 1) rest ++
      L.gap level ++ [']'])
  | .object ((name, value) :: rest) =>
    '\x7b' :: (L.gap (level + 1) ++ writeMember (level + 1) (name, value) ++
      writeMembers (level + 1) rest ++ L.gap level ++ ['\x7d'])
  | .null => ['n', 'u', 'l', 'l']
  | .bool true => ['t', 'r', 'u', 'e']
  | .bool false => ['f', 'a', 'l', 's', 'e']
  | .natural n => writeNatural n
  | .number digits => digits.toList
  | .string value => writeString value
  | .array [] => ['[', ']']
  | .object [] => ['\x7b', '\x7d']

/-- Items after the first one. -/
def writeItems (level : Nat) : List Json → List Char
  | [] => []
  | item :: rest => ',' :: (L.gap level ++ write level item ++ writeItems level rest)

def writeMember (level : Nat) : Option String × Json → List Char
  | (name, value) => writeString name ++ ':' :: (L.space ++ write level value)

/-- Members after the first one. -/
def writeMembers (level : Nat) : List (Option String × Json) → List Char
  | [] => []
  | m :: rest => ',' :: (L.gap level ++ writeMember level m ++ writeMembers level rest)

end

section Writers

variable {level : Nat}

@[simp] theorem gap_compact : compact.gap level = [] := rfl

@[simp] theorem space_compact : compact.space = [] := rfl

@[simp] theorem gap_pretty : pretty.gap level = newLine level := rfl

@[simp] theorem space_pretty : pretty.space = [' '] := rfl

theorem writeMember_eq (m : Option String × Json) :
    L.writeMember level m = writeString m.1 ++ ':' :: (L.space ++ L.write level m.2) := by
  rw [writeMember]

private theorem writeItems_compact (level : Nat) {item : Json} {rest : List Json}
    (each : ∀ i ∈ item :: rest, ∀ level, compact.write level i = Json.write i) :
    compact.write level item ++ compact.writeItems level rest = Json.writeItems (item :: rest) := by
  induction rest generalizing item with
  | nil => simp [each item List.mem_cons_self, writeItems, Json.writeItems]
  | cons next rest ih =>
    have later := ih fun i mem => each i (List.mem_cons_of_mem item mem)
    simp [each item List.mem_cons_self, writeItems, Json.writeItems, ← later]

private theorem writeMembers_compact (level : Nat) {m : Option String × Json}
    {rest : List (Option String × Json)}
    (each : ∀ m' ∈ m :: rest, ∀ level, compact.write level m'.2 = Json.write m'.2) :
    compact.writeMember level m ++ compact.writeMembers level rest =
      Json.writeMembers (m :: rest) := by
  induction rest generalizing m with
  | nil =>
    have inner := each m List.mem_cons_self level
    simp [writeMember_eq, inner, writeMembers, Json.writeMembers]
  | cons next rest ih =>
    have inner := each m List.mem_cons_self level
    have later := ih fun m' mem => each m' (List.mem_cons_of_mem m mem)
    simp [writeMember_eq, inner, writeMembers, Json.writeMembers, ← later]

theorem write_compact (j : Json) (level : Nat) : compact.write level j = Json.write j := by
  induction j using Json.induction_on generalizing level with
  | null => rfl
  | bool value => cases value <;> rfl
  | natural value => rfl
  | number digits => rfl
  | string value => rfl
  | array items each =>
    cases items with
    | nil => rfl
    | cons item rest =>
      simp [write, Json.write, ← writeItems_compact (level + 1) each]
  | object members each =>
    cases members with
    | nil => rfl
    | cons m rest =>
      simp [write, Json.write, ← writeMembers_compact (level + 1) each]

private theorem writeItems_pretty (level : Nat) {rest : List Json}
    (each : ∀ i ∈ rest, ∀ level, pretty.write level i = Json.writePretty level i) :
    pretty.writeItems level rest = prettyItems level rest := by
  induction rest with
  | nil => rfl
  | cons item rest ih =>
    have later := ih fun i mem => each i (List.mem_cons_of_mem item mem)
    have inner := each item List.mem_cons_self level
    simp [writeItems, prettyItems, later, inner]

private theorem writeMembers_pretty (level : Nat) {rest : List (Option String × Json)}
    (each : ∀ m ∈ rest, ∀ level, pretty.write level m.2 = Json.writePretty level m.2) :
    pretty.writeMembers level rest = prettyMembers level rest := by
  induction rest with
  | nil => rfl
  | cons m rest ih =>
    have later := ih fun m' mem => each m' (List.mem_cons_of_mem m mem)
    have inner := each m List.mem_cons_self level
    simp [writeMembers, writeMember_eq, prettyMembers, later, inner]

theorem write_pretty (j : Json) (level : Nat) :
    pretty.write level j = Json.writePretty level j := by
  induction j using Json.induction_on generalizing level with
  | null => rfl
  | bool value => cases value <;> rfl
  | natural value => rfl
  | number digits => rfl
  | string value => rfl
  | array items each =>
    cases items with
    | nil => rfl
    | cons item rest =>
      have inner := each item List.mem_cons_self (level + 1)
      have later := writeItems_pretty (level + 1) fun i mem =>
        each i (List.mem_cons_of_mem item mem)
      simp [write, Json.writePretty, inner, later]
  | object members each =>
    cases members with
    | nil => rfl
    | cons m rest =>
      have inner := each m List.mem_cons_self (level + 1)
      have later := writeMembers_pretty (level + 1) fun m' mem =>
        each m' (List.mem_cons_of_mem m mem)
      simp [write, writeMember_eq, Json.writePretty, inner, later]

end Writers

end Layout

end CustodySigner.Json
