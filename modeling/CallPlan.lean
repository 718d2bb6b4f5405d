import CallPlan.Main
import CallPlan.Plan.Action
import CallPlan.Proofs.Cbor
import CallPlan.Proofs.Data.Entries
import CallPlan.Proofs.Data.Except
import CallPlan.Proofs.Data.Growth
import CallPlan.Proofs.Data.Save
import CallPlan.Proofs.Data.Sealed
import CallPlan.Proofs.Data.Store
import CallPlan.Proofs.Data.Use
import CallPlan.Proofs.Default.Engine
import CallPlan.Proofs.Document
import CallPlan.Proofs.Plan.Aliasing
import CallPlan.Proofs.Plan.Binding
import CallPlan.Proofs.Plan.Checking
import CallPlan.Proofs.Plan.Compiled
import CallPlan.Proofs.Plan.Isolation
import CallPlan.Proofs.Plan.Outcome
import CallPlan.Proofs.Plan.Pairs
import CallPlan.Proofs.Plan.Reading
import CallPlan.Proofs.Plan.Refinement
import CallPlan.Proofs.Plan.Sealing
import CallPlan.Proofs.Plan.Setting
import CallPlan.Proofs.Scope
import CallPlan.Proofs.Signature.Assembled
import CallPlan.Proofs.Signature.Assembly
import CallPlan.Proofs.Signature.Clause
import CallPlan.Proofs.Signature.RoundTrip
import CallPlan.Proofs.Text.Blank
import CallPlan.Proofs.Text.Fields
import CallPlan.Proofs.Text.Sorted
import CallPlan.Proofs.Text.Utf8
import CallPlan.Routine
import CallPlan.Signature.Enter
import CallPlan.Proofs.Signature.Acceptance
import CallPlan.Proofs.Signature.Scanning
import CallPlan.Proofs.Signature.Canonical
import CallPlan.Proofs.Signature.Rendering
import CallPlan.Proofs.Plan.Requests
import CallPlan.Proofs.Plan.Visibility
import CallPlan.Proofs.Data.Renaming
import CallPlan.Proofs.Plan.Renaming
import CallPlan.Proofs.Plan.Lending
import CallPlan.Proofs.Plan.Independence
import CallPlan.Proofs.Signature.Balance
import CallPlan.Proofs.Plan.Laziness
import CallPlan.Proofs.Encoding
import CallPlan.Proofs.Signature.Spelling
import CallPlan.Proofs.Signature.Layout
import CallPlan.Proofs.Signature.Extent
import CallPlan.Proofs.Signature.Identity
import CallPlan.Proofs.Plan.Safety
import CallPlan.Proofs.Plan.Sources
import CallPlan.Proofs.Plan.Sparing
import CallPlan.Proofs.Plan.Twins
import CallPlan.Proofs.Plan.Tails
import CallPlan.Proofs.Data.Reading
import CallPlan.Proofs.Compile
import CallPlan.Proofs.Command.Prepared
import CallPlan.Proofs.Command.Console
import CallPlan.Proofs.Engine.Passing
import CallPlan.Proofs.Plan.Spellings
import CallPlan.Proofs.Loading
import CallPlan.Proofs.Signature.Completion
import CallPlan.Proofs.Signature.Rereading
import CallPlan.Proofs.Default.Sigils
import CallPlan.Proofs.Argument
import CallPlan.Proofs.Signature.Joining
import CallPlan.Proofs.Signature.Sentence
import CallPlan.Proofs.Data.Sameness
import CallPlan.Proofs.Json.Printing
import CallPlan.Proofs.Printing
import CallPlan.Proofs.Json.Elements
import CallPlan.Proofs.Command.ArgumentLine
import CallPlan.Proofs.Scope.Leaves
import CallPlan.Proofs.Scope.Storing
import CallPlan.Proofs.Text.Distance
import CallPlan.Proofs.Plan.Suggestion
import CallPlan.Proofs.Default.Literals
import CallPlan.Proofs.Signature.Literals
import CallPlan.Proofs.Signature.Invocant
import CallPlan.Proofs.Signature.Declared
