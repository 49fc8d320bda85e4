import TensorShape.Catalogue
import TensorShape.Session
import TensorShape.Source.Supply
import TensorShape.Proofs.Evaluation
import TensorShape.Proofs.Upkeep
import TensorShape.Proofs.Provenance
import TensorShape.Proofs.Validity
import TensorShape.Proofs.Operations
import TensorShape.Proofs.Revalidation
import TensorShape.Proofs.Sessions
import TensorShape.Proofs.Reliance
import TensorShape.Proofs.Frame
import TensorShape.Proofs.Drawing
import TensorShape.Proofs.WritingBounds
import TensorShape.Proofs.Acceptance
import TensorShape.Proofs.DerivationTrees
import TensorShape.Proofs.Readability
import TensorShape.Proofs.Codec
import TensorShape.Proofs.Quiet
import TensorShape.Proofs.Accounting
import TensorShape.Proofs.TwoRuns
import TensorShape.Proofs.Congruence
import TensorShape.Proofs.Completion
import TensorShape.Proofs.Reconstruction
import TensorShape.Proofs.Passes
import TensorShape.Proofs.Pairing
import TensorShape.Proofs.SoundDiagnostics
import TensorShape.Proofs.Segments
import TensorShape.Proofs.AxisSizes
import TensorShape.Proofs.Filtering
import TensorShape.Proofs.Remaking
import TensorShape.Proofs.OuterOnes
import TensorShape.Proofs.Interchange
import TensorShape.Proofs.JoinMeasures
import TensorShape.Proofs.Outlines
import TensorShape.Proofs.PlainIntegers
import TensorShape.Proofs.StandIns
import TensorShape.Proofs.Printability
import TensorShape.Proofs.Refusals
import TensorShape.Proofs.AxisReading
import TensorShape.Proofs.ViewsInPrint
import TensorShape.Proofs.LooseViews
import TensorShape.Proofs.Assembling
import TensorShape.Proofs.MatrixKinds
