import Manifest.Compilation
import Manifest.Diagnostic.Terminal
import Manifest.Interchange.Read
import Manifest.Node
import Manifest.Provider.Memory
import Manifest.Provider.Recording
import Manifest.Proofs.Lowering.Isolation
import Manifest.Proofs.Lowering.Merging
import Manifest.Proofs.Lowering.Shape
import Manifest.Proofs.Lowering.Survival
import Manifest.Proofs.Lowering.Transcript
import Manifest.Proofs.Lowering.Abort
import Manifest.Proofs.Lowering.Accounting
import Manifest.Proofs.Interchange.Reading
import Manifest.Proofs.Interchange.RoundTrip
import Manifest.Proofs.Lowering.Acceptance
import Manifest.Proofs.Lowering.Forecast
import Manifest.Proofs.Lowering.Order
import Manifest.Proofs.Lowering.Rearrangement
import Manifest.Proofs.DeclarationLog
import Manifest.Proofs.Lowering.References
import Manifest.Proofs.Lowering.Additive
import Manifest.Proofs.Lowering.Lockstep
import Manifest.Proofs.Lowering.Recounting
import Manifest.Proofs.Lowering.Dumps
import Manifest.Proofs.Agreement
import Manifest.Proofs.Provider.Unordered
import Manifest.Proofs.Lowering.Agreement
import Manifest.Proofs.Lowering.AnyWorld
import Manifest.Proofs.Editing
import Manifest.Proofs.Lowering.Requests
import Manifest.Proofs.DeclarationLog.Changes
import Manifest.Proofs.DeclarationLog.Occurrences
import Manifest.Proofs.Lowering.Cleanup
import Manifest.Proofs.Diagnostic.Reporting
import Manifest.Proofs.Lowering.Seeding
import Manifest.Proofs.Offering
import Manifest.Proofs.Lowering.Story
import Manifest.Proofs.Interchange.Validity
import Manifest.Proofs.Interchange.Document
import Manifest.Proofs.Diagnostic.ReadingBack
import Manifest.Proofs.Text.Paragraphs
import Manifest.Proofs.Diagnostic.Layout
import Manifest.Proofs.Diagnostic.Gutter
import Manifest.Proofs.Diagnostic.Styling
import Manifest.Proofs.Provider.Registration
import Manifest.Proofs.LongNames
import Manifest.Proofs.Lowering.ChildByChild
