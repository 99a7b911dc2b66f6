import CustodySigner.Proofs.Wire

set_option autoImplicit false
set_option relaxedAutoImplicit false

/-!
The records that are exchanged are read tolerantly: a field that is missing has its zero value, and
members that nobody knows do not matter. Nothing is lost or invented by it: the members that are there
decide every field, a known name may come once, and null is taken only where a collection or the
reason of a rejection is absent.
-/

namespace CustodySigner

namespace Json

mutual

/-- The zero values are zero, false, the empty text, list and map, and records of zero values. -/
def isZero : Json → Bool
  | natural value => value == 0
  | bool value => !value
  | string value => value == some ""
  | array items => items.isEmpty
  | object members => membersZero members
  | _ => false

def membersZero : List (Option String × Json) → Bool
  | [] => true
  | (_, value) :: rest => isZero value && membersZero rest

end

end Json

/-- The records that are exchanged, what they are at the start, the names of their fields in order,
and those that may come with null. -/
inductive WireRecord : {ρ : Type} → Codec ρ → ρ → List String → List String → Prop
  | obligation : WireRecord Obligation.codec .blank
      ["eccType", "rsv", "nonce", "address", "signed", "msg", "derivedPath", "walletID", "inputIndex"]
      []
  | coin : WireRecord Coin.codec .blank
      ["symbol", "isContract", "contractID", "contractAddress", "contractABI"] []
  | rejection : WireRecord Rejection.codec .blank ["code", "err"] []
  | transfer : WireRecord Transfer.codec .blank
      ["coin", "txID", "sid", "rawHex", "feeRate", "to", "accountID", "sigParts", "reqSigs", "fees",
        "errorMsg"] ["to", "sigParts", "errorMsg"]
  | contractCall : WireRecord ContractCall.codec .blank
      ["coin", "txID", "sid", "accountID", "sigParts", "raw", "rawType", "abiParam", "value",
        "feeRate", "fees", "awaitResult", "awaitTimeout"] ["sigParts", "abiParam"]
  | config : WireRecord Config.codec .default ["verbose", "parallel", "redact_logs"] []

namespace WireRecord

variable {ρ : Type} {c : Codec ρ} {start : ρ} {names nullable : List String}

theorem ofRecord (record : WireRecord c start names nullable) :
    c.OfRecord start names nullable [] := by
  cases record with
  | obligation => exact Obligation.ofRecord
  | coin => exact Coin.ofRecord
  | rejection => exact Rejection.ofRecord
  | transfer => exact Transfer.ofRecord
  | contractCall => exact ContractCall.ofRecord
  | config => exact Config.ofRecord

/-- A record is read tolerantly, and what is missing is zero, except that logs are redacted. -/
theorem reads_tolerantly (record : WireRecord c start names nullable) :
    c.Tolerant start names nullable ∧
      (∀ name ∈ names, name ≠ "redact_logs" → (c.memberAt start name).all Json.isZero) ∧
      ("redact_logs" ∈ names → c.memberAt start "redact_logs" = some (.bool true)) := by
  refine ⟨record.ofRecord.tolerant, ?zero, ?redacted⟩
  case zero => cases record <;> decide
  case redacted =>
    intro mem
    cases record with
    | config => rfl
    | _ => exact absurd mem (by decide)

/-- A transfer of one obligation on an account that gives nothing but its curve. -/
def sparseTransfer : Transfer :=
  { Transfer.blank with
    coin := { Coin.blank with symbol := "ETH" }
    account := "savings"
    obligations := ⟨[("savings", [{ Obligation.blank with curveCode := 7 }])], List.pairwise_singleton _ _⟩ }

/-- Members that describe it: no destinations, a coin and an obligation that are described in turn,
and two members that mean nothing. -/
def sparseMembers : List (Option String × Json) :=
  [(some "sigParts", .ofMembers [("savings", .array [.ofMembers [("eccType", .natural 7)]])]),
    (some "memo", .ofMembers [("eccType", .null), ("eccType", .array [.bool true])]),
    (some "to", .null),
    (some "coin", .ofMembers [("note", .natural 1), ("symbol", .ofText "ETH")]),
    (some "memo", .null),
    (some "accountID", .ofText "savings")]

theorem describes_sparseMembers : Transfer.codec.Describes .blank
    ["coin", "txID", "sid", "rawHex", "feeRate", "to", "accountID", "sigParts", "reqSigs", "fees",
      "errorMsg"] sparseTransfer sparseMembers where
  named := by simp [sparseMembers]
  once := by decide
  stands := by
    have obligations : Transfer.codec.decode (.object [(some "sigParts",
        .ofMembers [("savings", .array [.ofMembers [("eccType", .natural 7)]])])]) =
          some { Transfer.blank with obligations := sparseTransfer.obligations } := rfl
    have destinations : Transfer.codec.decode (.object [(some "to", .null)]) = some .blank := rfl
    have coin : Transfer.codec.decode (.object [(some "coin",
        .ofMembers [("note", .natural 1), ("symbol", .ofText "ETH")])]) =
          some { Transfer.blank with coin := sparseTransfer.coin } := rfl
    intro m mem name known here
    simp only [sparseMembers, List.mem_cons, List.not_mem_nil, or_false] at mem
    rcases mem with rfl | rfl | rfl | rfl | rfl | rfl <;> obtain rfl := Option.some.inj here
    · exact .alone obligations rfl
    · exact absurd known (by decide)
    · exact .alone destinations rfl
    · exact .alone coin rfl
    · exact absurd known (by decide)
    · exact .written rfl (.text "savings")
  present := by
    intro name known differs
    have mentioned : name ∈ ["coin", "to", "accountID", "sigParts"] := by
      by_contra quiet
      refine differs ?_
      simp only [List.mem_cons, List.not_mem_nil, or_false, not_or] at known quiet
      rcases known with rfl | rfl | rfl | rfl | rfl | rfl | rfl | rfl | rfl | rfl | rfl <;>
        first | rfl | simp at quiet
    simp only [List.mem_cons, List.not_mem_nil, or_false] at mentioned
    rcases mentioned with rfl | rfl | rfl | rfl <;> simp [sparseMembers]

theorem reads_tolerantly_sparseMembers :
    Transfer.codec.decode (.object sparseMembers) = some sparseTransfer ∧
      Transfer.codec.ofText? (Json.object sparseMembers).pretty = some sparseTransfer := by
  obtain ⟨tolerant, -⟩ := reads_tolerantly .transfer
  have read := tolerant.reads describes_sparseMembers
  have plain : (Json.object sparseMembers).Plain := by
    simp [sparseMembers, Json.ofMembers]
  exact ⟨read, (tolerant.text plain.spells_pretty).trans read⟩

end WireRecord

end CustodySigner
