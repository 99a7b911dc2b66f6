import CustodySigner.Command.Line
import Mathlib.Data.List.Nodup

set_option autoImplicit false
set_option relaxedAutoImplicit false

/-!
Every way to sign can be asked for on the command line: the options are spelled with their long names,
and their values stand behind the `=` whatever they look like.
-/

namespace CustodySigner.Command

/-- The argument that gives an option with its value; a switch has none. -/
def spell (setting : Flag × String) : String :=
  if setting.1.takesValue then "--" ++ setting.1.name ++ "=" ++ setting.2
  else "--" ++ setting.1.name

section Reading

variable {operands : Nat} {g : Given}

theorem find?_flag (flag : Flag) : Flag.all.find? (·.name == flag.name) = some flag := by
  cases flag <;> decide

theorem ofText_spell (setting : Flag × String) : Word.ofText (spell setting) =
    .long setting.1.name (if setting.1.takesValue then some setting.2 else none) := by
  obtain ⟨flag, value⟩ := setting
  cases flag <;> simp [spell, Word.ofText, Flag.takesValue, Flag.name]

/-- The setting may be given: its text is accepted, and a switch has no text. -/
def Settable (setting : Flag × String) : Prop :=
  setting.1.accepts setting.2 = true ∧ (setting.1.takesValue = false → setting.2 = "")

theorem readLong_spelled {setting : Flag × String} (settable : Settable setting)
    (fresh : g.has setting.1 = false) :
    readLong ⟨Flag.all, operands⟩ g setting.1.name
        (if setting.1.takesValue then some setting.2 else none) =
      .ok (⟨g.flags ++ [setting], g.operands⟩, none) := by
  obtain ⟨flag, value⟩ := setting
  obtain ⟨accepted, bare⟩ := settable
  have named : flag.name ≠ "help" := by cases flag <;> decide
  have added : g.addFlag flag value = .ok ⟨g.flags ++ [(flag, value)], g.operands⟩ := by
    simp [Given.addFlag, fresh, accepted]
  simp only [readLong, if_neg named, find?_flag]
  cases takes : flag.takesValue with
  | true => simp [added, Except.map]
  | false =>
    obtain rfl := bare takes
    simp [added, Except.map]

theorem readArguments_spelled {settings : List (Flag × String)}
    (settable : ∀ s ∈ settings, Settable s) (distinct : (settings.map (·.1)).Nodup)
    (fresh : ∀ s ∈ settings, g.has s.1 = false) :
    readArguments ⟨Flag.all, operands⟩ g (settings.map spell) =
      .ok ⟨g.flags ++ settings, g.operands⟩ := by
  induction settings generalizing g with
  | nil => simp [readArguments]
  | cons s rest ih =>
    obtain ⟨apart, distinct⟩ := List.nodup_cons.1 distinct
    have first : readLong ⟨Flag.all, operands⟩ g s.1.name
        (if s.1.takesValue then some s.2 else none) = .ok (⟨g.flags ++ [s], g.operands⟩, none) :=
      readLong_spelled (settable s List.mem_cons_self) (fresh s List.mem_cons_self)
    have later : ∀ s' ∈ rest, (⟨g.flags ++ [s], g.operands⟩ : Given).has s'.1 = false := by
      intro s' mem
      have other : (s.1 == s'.1) = false := by
        refine beq_false_of_ne fun same => apart ?_
        exact List.mem_map.2 ⟨s', mem, same.symm⟩
      have absent := fresh s' (List.mem_cons_of_mem s mem)
      simp only [Given.has, Given.value?, Option.isSome_map] at absent ⊢
      simpa [List.find?_append, other] using absent
    have tail := ih (fun s' mem => settable s' (List.mem_cons_of_mem s mem)) distinct later
    rw [List.append_assoc] at tail
    rw [List.map_cons, readArguments]
    simp only [ofText_spell, first, reduceCtorEq, if_false]
    exact tail

end Reading

section Options

variable (o : SignOptions)

/-- The text with which an option is given, if it is. -/
def SignOptions.given : Flag → Option String
  | .input => o.input
  | .seedHex =>
    match o.key with
    | .seedHex text => some text
    | .mnemonic .. => none
  | .mnemonic =>
    match o.key with
    | .seedHex _ => none
    | .mnemonic phrase _ => some phrase
  | .passphrase =>
    match o.key with
    | .seedHex _ => none
    | .mnemonic _ passphrase => some passphrase
  | .parallel => if o.parallel then some "" else none
  | .verbose => if o.verbose then some "" else none
  | .noRedact => if o.redact then none else some ""
  | .pretty => if o.pretty then some "" else none

def SignOptions.settings : List (Flag × String) :=
  Flag.all.filterMap fun flag => (o.given flag).map (flag, ·)

variable {o}

theorem SignOptions.mem_settings_iff {flag : Flag} {value : String} :
    (flag, value) ∈ o.settings ↔ o.given flag = some value := by
  have all : flag ∈ Flag.all := by cases flag <;> decide
  simp [settings, all]

theorem SignOptions.value?_settings (flag : Flag) :
    (⟨o.settings, []⟩ : Given).value? flag = o.given flag := by
  unfold Given.value?
  cases found : o.settings.find? (·.1 == flag) with
  | none =>
    cases given : o.given flag with
    | none => rfl
    | some value =>
      have absent := List.find?_eq_none.1 found (flag, value) (mem_settings_iff.2 given)
      simp at absent
  | some setting =>
    obtain ⟨flag', value⟩ := setting
    have same := List.find?_some found
    obtain rfl : flag' = flag := eq_of_beq same
    have given := mem_settings_iff.1 (List.mem_of_find?_eq_some found)
    rw [given]
    rfl

theorem SignOptions.ofGiven_settings : SignOptions.ofGiven ⟨o.settings, []⟩ = .ok o := by
  unfold ofGiven Given.has
  simp only [value?_settings, given]
  obtain ⟨input, key, parallel, verbose, redact, pretty⟩ := o
  cases key <;> cases parallel <;> cases verbose <;> cases redact <;> cases pretty <;> rfl

theorem SignOptions.nodup_settings : (o.settings.map (·.1)).Nodup := by
  unfold settings
  rw [List.map_filterMap]
  refine List.Nodup.filterMap (fun flag flag' found here there => ?_) (by decide)
  simp only [Option.map_map, Option.mem_def, Option.map_eq_some_iff, Function.comp_apply]
    at here there
  obtain ⟨-, -, rfl⟩ := here
  obtain ⟨-, -, rfl⟩ := there
  rfl

theorem SignOptions.settable_settings (path : o.input ≠ some "") :
    ∀ s ∈ o.settings, Settable s := by
  rintro ⟨flag, value⟩ mem
  have given := mem_settings_iff.1 mem
  cases flag with
  | input =>
    have named : value ≠ "" := fun empty => path (empty ▸ given)
    exact ⟨by simpa [Flag.accepts] using named, nofun⟩
  | seedHex | mnemonic | passphrase => exact ⟨rfl, nofun⟩
  | parallel | verbose | noRedact | pretty =>
    refine ⟨rfl, fun _ => ?_⟩
    simp only [SignOptions.given] at given
    split at given <;> simp_all

/-- The command of a kind of values. -/
def Kind.command : Kind → String
  | .transfer => "sign-raw"
  | .call => "sign-contract"
  | .obligations => "sign-hash"

theorem exists_arguments (kind : Kind) (path : o.input ≠ some "") :
    ∃ args, Invocation.ofArguments args = .ok (.sign kind o) := by
  have read : readArguments ⟨Flag.all, 0⟩ .none (o.settings.map spell) = .ok ⟨o.settings, []⟩ :=
    readArguments_spelled (SignOptions.settable_settings path) SignOptions.nodup_settings
      fun _ _ => rfl
  refine ⟨kind.command :: o.settings.map spell, ?_⟩
  cases kind <;> simp [Kind.command, Invocation.ofArguments, readCommand?, read,
    SignOptions.ofGiven_settings, bind, Except.bind, pure, Except.pure]

end Options

end CustodySigner.Command
