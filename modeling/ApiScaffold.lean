import ApiScaffold.Main
import ApiScaffold.Proofs.Api.DeclarationOrder
import ApiScaffold.Proofs.Api.Imports
import ApiScaffold.Proofs.Api.Names
import ApiScaffold.Proofs.Api.Reached
import ApiScaffold.Proofs.Api.SelfReference
import ApiScaffold.Proofs.Api.Vocabulary
import ApiScaffold.Proofs.Generation.Again
import ApiScaffold.Proofs.Generation.Alarms
import ApiScaffold.Proofs.Generation.Confinement
import ApiScaffold.Proofs.Generation.EditSafety
import ApiScaffold.Proofs.Generation.Failure
import ApiScaffold.Proofs.Generation.Forced
import ApiScaffold.Proofs.Generation.Once
import ApiScaffold.Proofs.Generation.Outputs
import ApiScaffold.Proofs.Generation.Saved
import ApiScaffold.Proofs.Generation.UpToDate
import ApiScaffold.Proofs.Schema.Flattening
import ApiScaffold.Proofs.Api.GivenNames
import ApiScaffold.Proofs.Emitter.Contract
import ApiScaffold.Proofs.Generation.Changed
import ApiScaffold.Proofs.Schema.Component
import ApiScaffold.Proofs.Schema.Token
import ApiScaffold.Proofs.Schema.Agreement
import ApiScaffold.Proofs.Schema.ArrayComponent
import ApiScaffold.Proofs.Schema.Brackets
import ApiScaffold.Proofs.Emitter.Identical
import ApiScaffold.Proofs.Operation.Merge
import ApiScaffold.Proofs.Operation.Canonical
import ApiScaffold.Proofs.Reference
import ApiScaffold.Proofs.Ledger.RoundTrip
import ApiScaffold.Proofs.Generation.Turns
import ApiScaffold.Proofs.Emitter.Retry
import ApiScaffold.Proofs.Naming.Route
import ApiScaffold.Proofs.Schema.Interleaved
