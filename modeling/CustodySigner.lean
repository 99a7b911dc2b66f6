import CustodySigner.Request
import CustodySigner.Main
import CustodySigner.Proofs.Batch.Atomicity
import CustodySigner.Proofs.Batch.Committed
import CustodySigner.Proofs.Recovery
import CustodySigner.Proofs.LowForm
import CustodySigner.Proofs.Batch.Classification
import CustodySigner.Proofs.DerivedKey
import CustodySigner.Proofs.Attempts
import CustodySigner.Proofs.Derivation.Unmarked
import CustodySigner.Proofs.Wire
import CustodySigner.Proofs.WireRecord
import CustodySigner.Proofs.FrontEnds
import CustodySigner.Proofs.Batch.Report
import CustodySigner.Proofs.Batch.RedactedLog
import CustodySigner.Proofs.Group.Pairing
import CustodySigner.Proofs.Keys.Spelling
import CustodySigner.Proofs.SyntheticKey.SignedValue
import CustodySigner.Proofs.SyntheticKey.Published
