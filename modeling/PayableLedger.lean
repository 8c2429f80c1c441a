import PayableLedger.Amount
import PayableLedger.Basic
import PayableLedger.Chain
import PayableLedger.Decimal
import PayableLedger.Error
import PayableLedger.Execution
import PayableLedger.Fee
import PayableLedger.Json.Quoted
import PayableLedger.Json.Value
import PayableLedger.Ledger
import PayableLedger.Procedure
import PayableLedger.Proofs.Admission
import PayableLedger.Proofs.Amount.Grammar
import PayableLedger.Proofs.Assessment
import PayableLedger.Proofs.Atomicity
import PayableLedger.Proofs.Balance
import PayableLedger.Proofs.Book
import PayableLedger.Proofs.Charge
import PayableLedger.Proofs.Conservation
import PayableLedger.Proofs.Decimal.Grammar
import PayableLedger.Proofs.Deed
import PayableLedger.Proofs.Digits
import PayableLedger.Proofs.Effect
import PayableLedger.Proofs.Execution
import PayableLedger.Proofs.Faultless
import PayableLedger.Proofs.FeeDivision
import PayableLedger.Proofs.FeeNeutrality
import PayableLedger.Proofs.Fragments
import PayableLedger.Proofs.Independence
import PayableLedger.Proofs.Instalments
import PayableLedger.Proofs.Json.Naming
import PayableLedger.Proofs.Json.Printing
import PayableLedger.Proofs.Json.Spelling
import PayableLedger.Proofs.Json.Stability
import PayableLedger.Proofs.Lifecycle
import PayableLedger.Proofs.Overlay
import PayableLedger.Proofs.Procedure
import PayableLedger.Proofs.Refinement
import PayableLedger.Proofs.Run
import PayableLedger.Proofs.ScopeIndex
import PayableLedger.Proofs.Settings
import PayableLedger.Proofs.Settlement
import PayableLedger.Proofs.SharedRules
import PayableLedger.Proofs.Success
import PayableLedger.Proofs.Trail
import PayableLedger.Proofs.Transfers
import PayableLedger.Proofs.Validity
import PayableLedger.Proofs.Version.Gate
import PayableLedger.Proofs.Version.Grammar
import PayableLedger.Proofs.Wire.ByName
import PayableLedger.Proofs.Wire.Percent
import PayableLedger.Proofs.Wire.Requests
import PayableLedger.Proofs.Wire.RoundTrip
import PayableLedger.Settings
import PayableLedger.Store
import PayableLedger.Text
import PayableLedger.Version
import PayableLedger.Wire.Request
