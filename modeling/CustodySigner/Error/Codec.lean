import CustodySigner.Curve
import CustodySigner.Json.Codec

set_option autoImplicit false
set_option relaxedAutoImplicit false

/-!
Curves and errors as JSON. A curve is its name; a curve error is an object of one member, from its
kind to its reason; the error a caller sees is a record that needs its code and its message.
-/

namespace CustodySigner

def Curve.codec : Codec Curve :=
  .named Curve.name fun name => Curve.all.find? (·.name == name)

def CurveError.codec : Codec CurveError where
  encode e := .ofMembers [(e.kind.name, .ofText e.reason)]
  decode
    | .object [(some name, .string (some reason))] => (Kind.ofName? name).map fun kind => ⟨kind, reason⟩
    | _ => none

namespace SignerError

def Code.codec : Codec Code :=
  .named Code.name Code.ofName?

def codec : Codec SignerError :=
  Record.codec (plain .internal "") [
    Record.field "code" Code.codec (·.code) (fun v r => { r with code := v }) .required,
    Record.field "message" .string (·.message) (fun v r => { r with message := v }) .required,
    Record.field "details" (.option .string) (·.details) (fun v r => { r with details := v })
      .positional]

end SignerError

/-- The envelope of an answer: either data or an error. -/
structure Response (α : Type) where
  success : Bool
  data : Option α
  error : Option SignerError
deriving DecidableEq, Repr

namespace Response

variable {α : Type}

def ok (data : α) : Response α := ⟨true, some data, none⟩

def failure (error : SignerError) : Response α := ⟨false, none, some error⟩

def codec (c : Codec α) : Codec (Response α) :=
  Record.codec ⟨false, none, none⟩ [
    Record.field "success" .bool (·.success) (fun v r => { r with success := v }) .required,
    Record.field "data" c.option (·.data) (fun v r => { r with data := v }) .positional,
    Record.field "error" SignerError.codec.option (·.error) (fun v r => { r with error := v })
      .positional]

end Response

end CustodySigner
