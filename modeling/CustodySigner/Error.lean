import CustodySigner.Bytes

set_option autoImplicit false
set_option relaxedAutoImplicit false

/-!
The errors of the engine. A curve operation fails with a `CurveError`, a key store with a
`KeyStoreError`, and everything a caller sees is a `SignerError`, which has a code of its own and
may carry details about the place of the failure.
-/

namespace CustodySigner

inductive CurveError.Kind where
  | invalidPrivateKey
  | invalidPublicKey
  | invalidSignature
  | invalidDigest
  | signingFailed
  | verificationFailed
  | unsupportedCurve
  | derivationFailed
deriving DecidableEq, Repr

/-- A failed curve operation, with a reason in words. -/
structure CurveError where
  kind : CurveError.Kind
  reason : String
deriving DecidableEq, Repr

namespace CurveError

namespace Kind

def all : List Kind :=
  [invalidPrivateKey, invalidPublicKey, invalidSignature, invalidDigest, signingFailed,
    verificationFailed, unsupportedCurve, derivationFailed]

def name : Kind → String
  | invalidPrivateKey => "InvalidPrivateKey"
  | invalidPublicKey => "InvalidPublicKey"
  | invalidSignature => "InvalidSignature"
  | invalidDigest => "InvalidDigest"
  | signingFailed => "SigningFailed"
  | verificationFailed => "VerificationFailed"
  | unsupportedCurve => "UnsupportedCurve"
  | derivationFailed => "DerivationFailed"

def ofName? (name : String) : Option Kind :=
  all.find? (·.name == name)

def heading : Kind → String
  | invalidPrivateKey => "Invalid private key"
  | invalidPublicKey => "Invalid public key"
  | invalidSignature => "Invalid signature"
  | invalidDigest => "Invalid digest"
  | signingFailed => "Signing failed"
  | verificationFailed => "Verification failed"
  | unsupportedCurve => "Unsupported curve"
  | derivationFailed => "Key derivation failed"

end Kind

def message (e : CurveError) : String :=
  e.kind.heading ++ ": " ++ e.reason

end CurveError

inductive KeyStoreError.Kind where
  | invalidPath
  | unsupportedCurve
  | invalidSeed
  | derivation
  | timeout
deriving DecidableEq, Repr

/-- A failed request to a key store, with a reason in words. -/
structure KeyStoreError where
  kind : KeyStoreError.Kind
  reason : String
deriving DecidableEq, Repr

namespace KeyStoreError

namespace Kind

def all : List Kind := [invalidPath, unsupportedCurve, invalidSeed, derivation, timeout]

def name : Kind → String
  | invalidPath => "InvalidPath"
  | unsupportedCurve => "UnsupportedCurve"
  | invalidSeed => "InvalidSeed"
  | derivation => "Derivation"
  | timeout => "Timeout"

def ofName? (name : String) : Option Kind :=
  all.find? (·.name == name)

def heading : Kind → String
  | invalidPath => "invalid derivation path"
  | unsupportedCurve => "curve not supported by key store"
  | invalidSeed => "invalid seed"
  | derivation => "derivation failed"
  | timeout => "key store timed out"

end Kind

def message (e : KeyStoreError) : String :=
  e.kind.heading ++ ": " ++ e.reason

/-- A store that derives keys passes on the curve's errors. -/
def ofCurveError (e : CurveError) : KeyStoreError :=
  match e.kind with
  | .unsupportedCurve => ⟨.unsupportedCurve, e.reason⟩
  | _ => ⟨.derivation, e.message⟩

end KeyStoreError

/-- The codes by which callers tell failures apart. -/
inductive SignerError.Code where
  | invalidDerivationPath
  | unsupportedCurve
  | digestDecodeError
  | signingFailure
  | incompleteKeySet
  | derivationError
  | invalidPrivateKey
  | invalidInput
  | jsonError
  | internal
deriving DecidableEq, Repr

/-- A failure as the caller sees it. -/
structure SignerError where
  code : SignerError.Code
  message : String
  details : Option String
deriving DecidableEq, Repr

namespace SignerError

namespace Code

def all : List Code :=
  [invalidDerivationPath, unsupportedCurve, digestDecodeError, signingFailure, incompleteKeySet,
    derivationError, invalidPrivateKey, invalidInput, jsonError, internal]

def name : Code → String
  | invalidDerivationPath => "invalid_derivation_path"
  | unsupportedCurve => "unsupported_curve"
  | digestDecodeError => "digest_decode_error"
  | signingFailure => "signing_failure"
  | incompleteKeySet => "incomplete_key_set"
  | derivationError => "derivation_error"
  | invalidPrivateKey => "invalid_private_key"
  | invalidInput => "invalid_input"
  | jsonError => "json_error"
  | internal => "internal"

def ofName? (name : String) : Option Code :=
  all.find? (·.name == name)

def title : Code → String
  | invalidDerivationPath => "InvalidDerivationPath"
  | unsupportedCurve => "UnsupportedCurve"
  | digestDecodeError => "DigestDecodeError"
  | signingFailure => "SigningFailure"
  | incompleteKeySet => "IncompleteKeySet"
  | derivationError => "DerivationError"
  | invalidPrivateKey => "InvalidPrivateKey"
  | invalidInput => "InvalidInput"
  | jsonError => "JsonError"
  | internal => "Internal"

end Code

/-- An error that says nothing about its place. -/
def plain (code : Code) (message : String) : SignerError :=
  ⟨code, message, none⟩

def withDetails (e : SignerError) (details : String) : SignerError :=
  { e with details := some details }

/-- The code in brackets, the message, and the details in parentheses. -/
def display (e : SignerError) : String :=
  "[" ++ e.code.title ++ "] " ++ e.message ++
    match e.details with
    | none => ""
    | some details => " (" ++ details ++ ")"

def codeOfCurve : CurveError.Kind → Code
  | .invalidPrivateKey => .invalidPrivateKey
  | .unsupportedCurve => .unsupportedCurve
  | .derivationFailed => .derivationError
  | .invalidPublicKey | .invalidSignature | .invalidDigest | .signingFailed
  | .verificationFailed => .signingFailure

def ofCurveError (e : CurveError) : SignerError :=
  plain (codeOfCurve e.kind) e.message

def codeOfKeyStore : KeyStoreError.Kind → Code
  | .invalidPath => .invalidDerivationPath
  | .unsupportedCurve => .unsupportedCurve
  | .invalidSeed => .invalidInput
  | .derivation | .timeout => .derivationError

def ofKeyStoreError (e : KeyStoreError) : SignerError :=
  plain (codeOfKeyStore e.kind) e.message

end SignerError

end CustodySigner
