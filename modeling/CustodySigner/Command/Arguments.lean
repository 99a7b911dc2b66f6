set_option autoImplicit false
set_option relaxedAutoImplicit false

/-!
The arguments of the command line: a command, its options and its operands. An option may be given
once; its value follows it, or stands in the same argument after `=` or after the option's letter. A
value that follows must not look like an option, and two dashes end the options.
-/

namespace CustodySigner.Command

inductive Flag where
  | input
  | seedHex
  | mnemonic
  | passphrase
  | parallel
  | verbose
  | noRedact
  | pretty
deriving DecidableEq, Repr

namespace Flag

def all : List Flag :=
  [input, seedHex, mnemonic, passphrase, parallel, verbose, noRedact, pretty]

def name : Flag → String
  | input => "input"
  | seedHex => "seed-hex"
  | mnemonic => "mnemonic"
  | passphrase => "passphrase"
  | parallel => "parallel"
  | verbose => "verbose"
  | noRedact => "no-redact"
  | pretty => "pretty"

def letter? : Flag → Option Char
  | input => some 'i'
  | verbose => some 'v'
  | _ => none

def takesValue : Flag → Bool
  | input | seedHex | mnemonic | passphrase => true
  | parallel | verbose | noRedact | pretty => false

/-- A path must not be empty; other texts may be. -/
def accepts (flag : Flag) (value : String) : Bool :=
  flag != input || value != ""

end Flag

/-- Why the arguments run no command. -/
inductive Refusal where
  | help
  /-- The arguments are not understood. -/
  | usage
deriving DecidableEq, Repr

/-- The options and operands that were given. -/
structure Given where
  flags : List (Flag × String)
  operands : List String
deriving DecidableEq, Repr

namespace Given

def none : Given := ⟨[], []⟩

def value? (g : Given) (flag : Flag) : Option String :=
  (g.flags.find? (·.1 == flag)).map (·.2)

def has (g : Given) (flag : Flag) : Bool :=
  (g.value? flag).isSome

def addFlag (g : Given) (flag : Flag) (value : String) : Except Refusal Given :=
  if g.has flag || !flag.accepts value then .error .usage
  else .ok { g with flags := g.flags ++ [(flag, value)] }

end Given

structure Shape where
  flags : List Flag
  operands : Nat

def Given.addOperand (shape : Shape) (g : Given) (text : String) : Except Refusal Given :=
  if g.operands.length < shape.operands then .ok { g with operands := g.operands ++ [text] }
  else .error .usage

/-- What an argument is by its dashes. -/
inductive Word where
  | escape
  /-- A name after two dashes, and what follows the first `=`. -/
  | long (name : String) (value : Option String)
  /-- Letters after one dash. -/
  | letters (cs : List Char)
  | plain (text : String)
deriving DecidableEq, Repr

def Word.ofText (text : String) : Word :=
  match text.toList with
  | ['-', '-'] => .escape
  | '-' :: '-' :: rest =>
    let name := String.ofList (rest.takeWhile (· != '='))
    match rest.dropWhile (· != '=') with
    | [] => .long name none
    | _ :: value => .long name (some (String.ofList value))
  | '-' :: c :: rest => .letters (c :: rest)
  | _ => .plain text

/-- The text may stand as a value after its option. -/
def isValue (text : String) : Bool :=
  match Word.ofText text with
  | .plain _ => true
  | _ => false

/-- Reads letters after one dash: switches, and at most one option with a value, which the other
letters are unless there are none. Gives that option if its value is still to come. -/
def readLetters (shape : Shape) (g : Given) : List Char → Except Refusal (Given × Option Flag)
  | [] => .ok (g, none)
  | c :: rest =>
    if c == 'h' then .error .help
    else
      match shape.flags.find? (·.letter? == some c) with
      | none => .error .usage
      | some flag =>
        if flag.takesValue then
          match rest with
          | [] => .ok (g, some flag)
          | '=' :: value => (g.addFlag flag (String.ofList value)).map (·, none)
          | value => (g.addFlag flag (String.ofList value)).map (·, none)
        else
          match g.addFlag flag "" with
          | .error e => .error e
          | .ok g => readLetters shape g rest

/-- Reads a name after two dashes. Gives the option if its value is still to come. -/
def readLong (shape : Shape) (g : Given) (name : String) (value : Option String) :
    Except Refusal (Given × Option Flag) :=
  if name = "help" then .error (if value.isNone then .help else .usage)
  else
    match shape.flags.find? (·.name == name) with
    | none => .error .usage
    | some flag =>
      match flag.takesValue, value with
      | true, none => .ok (g, some flag)
      | true, some value => (g.addFlag flag value).map (·, none)
      | false, none => (g.addFlag flag "").map (·, none)
      | false, some _ => .error .usage

def readArguments (shape : Shape) (g : Given) : List String → Except Refusal Given
  | [] => .ok g
  | text :: rest =>
    let found : Except Refusal (Given × Option Flag) :=
      match Word.ofText text with
      | .escape => .ok (g, none)
      | .plain text => (g.addOperand shape text).map (·, none)
      | .long name value => readLong shape g name value
      | .letters cs => readLetters shape g cs
    match found with
    | .error e => .error e
    | .ok (g, pending) =>
      if Word.ofText text = .escape then rest.foldlM (Given.addOperand shape) g
      else
        match pending with
        | none => readArguments shape g rest
        | some flag =>
          match rest with
          | [] => .error .usage
          | value :: rest =>
            if isValue value then
              match g.addFlag flag value with
              | .error e => .error e
              | .ok g => readArguments shape g rest
            else .error .usage

end CustodySigner.Command
