import CustodySigner.Config
import CustodySigner.Error.Codec
import CustodySigner.Proofs.Json.Tolerance
import CustodySigner.Transaction.Basic

set_option autoImplicit false
set_option relaxedAutoImplicit false

/-!
Everything that is exchanged with the service and with callers is read back from its own JSON text,
whatever the order in which the members of the objects are written.
-/

namespace CustodySigner

open Codec

section Names

theorem Curve.codec_faithful : Curve.codec.Faithful := by
  refine .named fun curve => ?_
  cases curve <;> decide

theorem SignerError.Code.codec_faithful : SignerError.Code.codec.Faithful := by
  refine .named fun code => ?_
  cases code <;> decide

theorem CurveError.Kind.ofName?_name (kind : CurveError.Kind) :
    CurveError.Kind.ofName? kind.name = some kind := by
  cases kind <;> decide

/-- An object of one member has but one order. -/
theorem CurveError.codec_faithful : CurveError.codec.Faithful where
  plain e := by
    refine .object (fun m mem => ?_) (fun m mem => ?_)
    · obtain rfl := List.mem_singleton.1 mem
      exact ⟨e.kind.name, rfl⟩
    · obtain rfl := List.mem_singleton.1 mem
      exact .text e.reason
  decode_eq {e j} written := by
    have single : (Json.object ([e].map fun e =>
        (some e.kind.name, Json.ofText e.reason))).Reordered j := written
    obtain ⟨order, members, rfl, shuffled, each⟩ := single.exists_order
    obtain rfl := List.singleton_perm.1 shuffled
    cases each with
    | @cons _ m _ _ first rest =>
      cases rest
      obtain ⟨name, value⟩ := m
      obtain ⟨rfl, reason⟩ : name = some e.kind.name ∧
          (Json.ofText e.reason).Reordered value := first
      cases reason
      change (CurveError.Kind.ofName? e.kind.name).map (fun kind => ⟨kind, e.reason⟩) = some e
      rw [CurveError.Kind.ofName?_name, Option.map_some]

end Names

section Records

theorem Obligation.ofRecord : Obligation.codec.OfRecord .blank
    ["eccType", "rsv", "nonce", "address", "signed", "msg", "derivedPath", "walletID", "inputIndex"]
    [] [] := by
  refine ⟨_, rfl, ⟨?distinct, ?faithful, ?apart, ?complete⟩, rfl, ?each⟩
  case complete =>
    rintro ⟨⟩ ⟨⟩ same
    simpa [Faithful.encode_inj] using same
  all_goals simp

theorem Obligation.codec_faithful : Obligation.codec.Faithful := Obligation.ofRecord.faithful

theorem Obligations.codec_faithful : Obligations.codec.Faithful :=
  .dict (.list Obligation.codec_faithful)

theorem Coin.ofRecord : Coin.codec.OfRecord .blank
    ["symbol", "isContract", "contractID", "contractAddress", "contractABI"] [] [] := by
  refine ⟨_, rfl, ⟨?distinct, ?faithful, ?apart, ?complete⟩, rfl, ?each⟩
  case complete =>
    rintro ⟨⟩ ⟨⟩ same
    simpa [Faithful.encode_inj] using same
  all_goals simp

theorem Coin.codec_faithful : Coin.codec.Faithful := Coin.ofRecord.faithful

@[simp] theorem Coin.refusesNull_codec : Coin.codec.RefusesNull := Record.refusesNull_codec _ _

theorem Rejection.ofRecord : Rejection.codec.OfRecord .blank ["code", "err"] [] [] := by
  refine ⟨_, rfl, ⟨?distinct, ?faithful, ?apart, ?complete⟩, rfl, ?each⟩
  case complete =>
    rintro ⟨⟩ ⟨⟩ same
    simpa [Faithful.encode_inj] using same
  all_goals simp

theorem Rejection.codec_faithful : Rejection.codec.Faithful := Rejection.ofRecord.faithful

theorem Transfer.ofRecord : Transfer.codec.OfRecord .blank
    ["coin", "txID", "sid", "rawHex", "feeRate", "to", "accountID", "sigParts", "reqSigs", "fees",
      "errorMsg"] ["to", "sigParts", "errorMsg"] [] := by
  have coin := Coin.codec_faithful
  have destinations : (Codec.nullAs .empty (.dict .string)).Faithful :=
    .nullAs (.dict .string) (neverNull_dict _) _
  have obligations : (Codec.nullAs .empty Obligations.codec).Faithful :=
    .nullAs Obligations.codec_faithful (neverNull_dict _) _
  have rejection : Rejection.codec.option.Faithful :=
    .option Rejection.codec_faithful (Record.neverNull_codec _ _)
  have present := Option.map_injective Rejection.codec_faithful.encode_injective
  refine ⟨_, rfl, ⟨?distinct, ?faithful, ?apart, ?complete⟩, rfl, ?each⟩
  case faithful => simp [coin, destinations, obligations, rejection, Transfer.blank]
  case complete =>
    rintro ⟨⟩ ⟨⟩ same
    simpa [coin, destinations, obligations, Faithful.encode_inj, present.eq_iff] using same
  case each => simp [Transfer.blank]
  all_goals simp

theorem Transfer.codec_faithful : Transfer.codec.Faithful := Transfer.ofRecord.faithful

theorem ContractCall.ofRecord : ContractCall.codec.OfRecord .blank
    ["coin", "txID", "sid", "accountID", "sigParts", "raw", "rawType", "abiParam", "value", "feeRate",
      "fees", "awaitResult", "awaitTimeout"] ["sigParts", "abiParam"] [] := by
  have coin := Coin.codec_faithful
  have obligations : (Codec.nullAs .empty Obligations.codec).Faithful :=
    .nullAs Obligations.codec_faithful (neverNull_dict _) _
  have arguments : (Codec.nullAs [] (.list .string)).Faithful :=
    .nullAs (.list .string) (neverNull_list _) _
  refine ⟨_, rfl, ⟨?distinct, ?faithful, ?apart, ?complete⟩, rfl, ?each⟩
  case faithful => simp [coin, obligations, arguments]
  case complete =>
    rintro ⟨⟩ ⟨⟩ same
    simpa [coin, obligations, arguments, Faithful.encode_inj] using same
  case each => simp [ContractCall.blank]
  all_goals simp

theorem ContractCall.codec_faithful : ContractCall.codec.Faithful := ContractCall.ofRecord.faithful

theorem Config.ofRecord :
    Config.codec.OfRecord .default ["verbose", "parallel", "redact_logs"] [] [] := by
  refine ⟨_, rfl, ⟨?distinct, ?faithful, ?apart, ?complete⟩, rfl, ?each⟩
  case complete =>
    rintro ⟨⟩ ⟨⟩ same
    simpa [Faithful.encode_inj] using same
  all_goals simp

theorem Config.codec_faithful : Config.codec.Faithful := Config.ofRecord.faithful

theorem SignerError.codec_faithful : SignerError.codec.Faithful := by
  have code := SignerError.Code.codec_faithful
  have details : (Codec.option .string).Faithful := .option .string neverNull_string
  refine Record.codec_faithful ⟨?distinct, ?faithful, ?apart, ?complete⟩
  case faithful => simp [code, details]
  case complete =>
    rintro ⟨⟩ ⟨⟩ same
    simpa [code, details, Faithful.encode_inj] using same
  all_goals simp

theorem Response.codec_faithful {α : Type} {c : Codec α} (h : c.Faithful) (solid : c.NeverNull) :
    (Response.codec c).Faithful := by
  have data : c.option.Faithful := .option h solid
  have error : SignerError.codec.option.Faithful :=
    .option SignerError.codec_faithful (Record.neverNull_codec _ _)
  refine Record.codec_faithful ⟨?distinct, ?faithful, ?apart, ?complete⟩
  case faithful => simp [data, error]
  case complete =>
    rintro ⟨⟩ ⟨⟩ same
    simpa [data, error, Faithful.encode_inj] using same
  all_goals simp

end Records

/-- The codecs of what is exchanged with the service and with callers. -/
inductive WireCodec : {α : Type} → Codec α → Prop
  | obligation : WireCodec Obligation.codec
  | coin : WireCodec Coin.codec
  | rejection : WireCodec Rejection.codec
  | transfer : WireCodec Transfer.codec
  | contractCall : WireCodec ContractCall.codec
  | obligations : WireCodec Obligations.codec
  | config : WireCodec Config.codec
  | curve : WireCodec Curve.codec
  | curveError : WireCodec CurveError.codec
  | signerError : WireCodec SignerError.codec
  | response : WireCodec (Response.codec .string)

namespace WireCodec

variable {α : Type} {c : Codec α}

theorem faithful (wire : WireCodec c) : c.Faithful := by
  cases wire with
  | obligation => exact Obligation.codec_faithful
  | coin => exact Coin.codec_faithful
  | rejection => exact Rejection.codec_faithful
  | transfer => exact Transfer.codec_faithful
  | contractCall => exact ContractCall.codec_faithful
  | obligations => exact Obligations.codec_faithful
  | config => exact Config.codec_faithful
  | curve => exact Curve.codec_faithful
  | curveError => exact CurveError.codec_faithful
  | signerError => exact SignerError.codec_faithful
  | response => exact Response.codec_faithful .string neverNull_string

/-- A value is read back from its text, and from every text that has the members of its objects in
another order, on one line or on many. So a text that is read can be replaced by the text of what it
gives. -/
theorem reads_back (wire : WireCodec c) :
    (∀ x, c.ofText? (c.toText x) = some x ∧ ∀ j, (c.encode x).Reordered j →
      c.ofText? j.compact = some x ∧ c.ofText? j.pretty = some x) ∧
    ∀ text x, c.ofText? text = some x → c.ofText? (c.toText x) = c.ofText? text := by
  have back (x : α) : c.ofText? (c.toText x) = some x :=
    wire.faithful.ofText?_compact (wire.faithful.plain x).reordered_refl
  refine ⟨fun x => ⟨back x, fun j reordered => ?_⟩, fun text x read => ?_⟩
  · exact ⟨wire.faithful.ofText?_compact reordered, wire.faithful.ofText?_pretty reordered⟩
  · rw [back x, read]

/-- An obligation on a curve that nobody knows, with a quote, a backslash and control characters in
its texts. -/
def strayObligation : Obligation :=
  ⟨7, true, "\x22\x5c", "\n\t", "", "\x00\x1f", "", "ü", 0xffffffff⟩

def strayObligations : Obligations where
  entries := [("savings", [strayObligation, .blank]), ("trading", [])]
  sorted := List.pairwise_pair.2 (show "savings" < "trading" by decide)

/-- The obligations written with their accounts the other way round. -/
def strayMembers : Json :=
  .ofMembers (strayObligations.entries.reverse.map fun (account, owed) =>
    (account, (Codec.list Obligation.codec).encode owed))

theorem reads_back_strayObligations :
    (Obligations.codec.encode strayObligations).Reordered strayMembers ∧
    Obligations.codec.ofText? strayMembers.pretty = some strayObligations ∧
    Obligations.codec.ofText? (Obligations.codec.toText strayObligations) =
      Obligations.codec.ofText? strayMembers.compact := by
  have reordered : (Obligations.codec.encode strayObligations).Reordered strayMembers :=
    Faithful.reordered_dict (.list Obligation.codec_faithful) (List.reverse_perm _).symm
  obtain ⟨back, again⟩ := reads_back .obligations
  obtain ⟨compact, pretty⟩ := (back strayObligations).2 strayMembers reordered
  exact ⟨reordered, pretty, again strayMembers.compact strayObligations compact⟩

end WireCodec

end CustodySigner
