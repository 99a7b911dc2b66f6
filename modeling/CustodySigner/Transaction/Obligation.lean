import CustodySigner.Curve
import CustodySigner.Json.Codec

set_option autoImplicit false
set_option relaxedAutoImplicit false

/-!
Signing obligations: the signatures that a transaction's spending conditions ask for, listed under
the accounts that owe them.
-/

namespace CustodySigner

/-- One signature that is owed. -/
structure Obligation where
  curveCode : UInt32
  /-- A recovery byte is to follow the signature. -/
  recovery : Bool
  nonce : String
  address : String
  /-- The signature in hexadecimal, empty until signed. -/
  signed : String
  /-- The digest in hexadecimal. -/
  message : String
  path : String
  wallet : String
  inputIndex : UInt32
deriving DecidableEq, Repr

namespace Obligation

def blank : Obligation := ⟨0, false, "", "", "", "", "", "", 0⟩

def isSigned (o : Obligation) : Bool :=
  o.signed != ""

def curve? (o : Obligation) : Option Curve :=
  Curve.ofCode? o.curveCode

def codec : Codec Obligation :=
  Record.codec blank [
    Record.field "eccType" .uint32 (·.curveCode) (fun v o => { o with curveCode := v }),
    Record.field "rsv" .bool (·.recovery) (fun v o => { o with recovery := v }),
    Record.field "nonce" .string (·.nonce) (fun v o => { o with nonce := v }),
    Record.field "address" .string (·.address) (fun v o => { o with address := v }),
    Record.field "signed" .string (·.signed) (fun v o => { o with signed := v }),
    Record.field "msg" .string (·.message) (fun v o => { o with message := v }),
    Record.field "derivedPath" .string (·.path) (fun v o => { o with path := v }),
    Record.field "walletID" .string (·.wallet) (fun v o => { o with wallet := v }),
    Record.field "inputIndex" .uint32 (·.inputIndex) (fun v o => { o with inputIndex := v })]

end Obligation

/-- The obligations of each account. -/
abbrev Obligations := Dict (List Obligation)

namespace Obligations

def count (m : Obligations) : Nat :=
  m.values.flatten.length

def isFullySigned (m : Obligations) : Bool :=
  m.values.flatten.all Obligation.isSigned

def codec : Codec Obligations :=
  .dict (.list Obligation.codec)

end Obligations

end CustodySigner
