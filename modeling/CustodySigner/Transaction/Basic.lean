import CustodySigner.Transaction.Obligation

set_option autoImplicit false
set_option relaxedAutoImplicit false

/-!
The two kinds of transactions that carry obligations: transfers of value and calls of contracts. A
field that is missing from a transaction has its zero value.
-/

namespace CustodySigner

structure Coin where
  symbol : String
  isContract : Bool
  contractId : String
  contractAddress : String
  contractInterface : String
deriving DecidableEq, Repr

namespace Coin

def blank : Coin := ⟨"", false, "", "", ""⟩

def codec : Codec Coin :=
  Record.codec blank [
    Record.field "symbol" .string (·.symbol) (fun v c => { c with symbol := v }),
    Record.field "isContract" .bool (·.isContract) (fun v c => { c with isContract := v }),
    Record.field "contractID" .string (·.contractId) (fun v c => { c with contractId := v }),
    Record.field "contractAddress" .string (·.contractAddress)
      (fun v c => { c with contractAddress := v }),
    Record.field "contractABI" .string (·.contractInterface)
      (fun v c => { c with contractInterface := v })]

end Coin

/-- Why the service turned a transaction down. -/
structure Rejection where
  code : UInt64
  reason : String
deriving DecidableEq, Repr

namespace Rejection

def blank : Rejection := ⟨0, ""⟩

def codec : Codec Rejection :=
  Record.codec blank [
    Record.field "code" .uint64 (·.code) (fun v e => { e with code := v }),
    Record.field "err" .string (·.reason) (fun v e => { e with reason := v })]

end Rejection

/-- A transfer of value. -/
structure Transfer where
  coin : Coin
  id : String
  session : String
  rawHex : String
  feeRate : String
  destinations : Dict String
  /-- The account that made the transaction. -/
  account : String
  obligations : Obligations
  required : UInt64
  fees : String
  rejection : Option Rejection
deriving DecidableEq, Repr

namespace Transfer

def blank : Transfer := ⟨.blank, "", "", "", "", .empty, "", .empty, 0, "", none⟩

def codec : Codec Transfer :=
  Record.codec blank [
    Record.field "coin" Coin.codec (·.coin) (fun v t => { t with coin := v }),
    Record.field "txID" .string (·.id) (fun v t => { t with id := v }),
    Record.field "sid" .string (·.session) (fun v t => { t with session := v }),
    Record.field "rawHex" .string (·.rawHex) (fun v t => { t with rawHex := v }),
    Record.field "feeRate" .string (·.feeRate) (fun v t => { t with feeRate := v }),
    Record.field "to" (.nullAs .empty (.dict .string)) (·.destinations)
      (fun v t => { t with destinations := v }),
    Record.field "accountID" .string (·.account) (fun v t => { t with account := v }),
    Record.field "sigParts" (.nullAs .empty Obligations.codec) (·.obligations)
      (fun v t => { t with obligations := v }),
    Record.field "reqSigs" .uint64 (·.required) (fun v t => { t with required := v }),
    Record.field "fees" .string (·.fees) (fun v t => { t with fees := v }),
    Record.optionField "errorMsg" Rejection.codec (·.rejection)
      (fun v t => { t with rejection := v })]

end Transfer

/-- A call of a contract. -/
structure ContractCall where
  coin : Coin
  id : String
  session : String
  account : String
  obligations : Obligations
  /-- The payload, encoded as `rawKind` says. -/
  raw : String
  rawKind : UInt64
  arguments : List String
  value : String
  feeRate : String
  fees : String
  awaitResult : Bool
  /-- Seconds; zero leaves the choice to the service. -/
  awaitTimeout : UInt64
deriving DecidableEq, Repr

namespace ContractCall

def blank : ContractCall :=
  ⟨.blank, "", "", "", .empty, "", 0, [], "", "", "", false, 0⟩

def codec : Codec ContractCall :=
  Record.codec blank [
    Record.field "coin" Coin.codec (·.coin) (fun v t => { t with coin := v }),
    Record.field "txID" .string (·.id) (fun v t => { t with id := v }),
    Record.field "sid" .string (·.session) (fun v t => { t with session := v }),
    Record.field "accountID" .string (·.account) (fun v t => { t with account := v }),
    Record.field "sigParts" (.nullAs .empty Obligations.codec) (·.obligations)
      (fun v t => { t with obligations := v }),
    Record.field "raw" .string (·.raw) (fun v t => { t with raw := v }),
    Record.field "rawType" .uint64 (·.rawKind) (fun v t => { t with rawKind := v }),
    Record.field "abiParam" (.nullAs [] (.list .string)) (·.arguments)
      (fun v t => { t with arguments := v }),
    Record.field "value" .string (·.value) (fun v t => { t with value := v }),
    Record.field "feeRate" .string (·.feeRate) (fun v t => { t with feeRate := v }),
    Record.field "fees" .string (·.fees) (fun v t => { t with fees := v }),
    Record.field "awaitResult" .bool (·.awaitResult) (fun v t => { t with awaitResult := v }),
    Record.field "awaitTimeout" .uint64 (·.awaitTimeout) (fun v t => { t with awaitTimeout := v })]

end ContractCall

end CustodySigner
