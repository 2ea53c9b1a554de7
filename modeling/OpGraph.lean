import OpGraph.Main
import OpGraph.Proofs.Inference.Refinement
import OpGraph.Proofs.Inference.Solution
import OpGraph.Proofs.Graph.Restriction
import OpGraph.Proofs.Inference.Failure
import OpGraph.Proofs.Inference.Agreement
import OpGraph.Proofs.Graph.Construction
import OpGraph.Proofs.Document.Build
import OpGraph.Proofs.Document.Rearrangement
import OpGraph.Proofs.Graph.Renaming
import OpGraph.Proofs.Inference.Renaming
import OpGraph.Proofs.Document.Renaming
import OpGraph.Proofs.Graph.Mapping
import OpGraph.Proofs.Inference.Settled
import OpGraph.Proofs.Inference.Recording
import OpGraph.Proofs.Shape.Recorded
import OpGraph.Proofs.Document.Acceptance
import OpGraph.Proofs.Document.Restoration
import OpGraph.Proofs.Document.Recurrent
import OpGraph.Proofs.Inference.Fallback
import OpGraph.Proofs.CommandLine.Fallback
import OpGraph.Proofs.Inference.Cone
import OpGraph.Proofs.Shape.Signed
import OpGraph.Proofs.Shape.Text
import OpGraph.Proofs.Inference.Closure
import OpGraph.Proofs.Document.Readable
import OpGraph.Proofs.Order.Least
import OpGraph.Proofs.Order.Stuck
import OpGraph.Proofs.Inference.Blame
import OpGraph.Proofs.Shape.Alignment
import OpGraph.Proofs.Shape.Semilattice
import OpGraph.Proofs.Shape.Instances
import OpGraph.Proofs.Numeral
import OpGraph.Proofs.Text.Trim
import OpGraph.Proofs.Text.Items
import OpGraph.Proofs.Shape.Clash
import OpGraph.Proofs.Shape.Grammar
import OpGraph.Proofs.Inference.Attribute
import OpGraph.Proofs.Document.ShapeDatum
import OpGraph.Proofs.Shape.Count
import OpGraph.Proofs.Document.Offence
import OpGraph.Proofs.Inference.Bookkeeping
import OpGraph.Proofs.Inference.Missing
import OpGraph.Proofs.Graph.Incidence
import OpGraph.Proofs.Inference.Report
import OpGraph.Proofs.Registry
import OpGraph.Proofs.Registry.Builtin
import OpGraph.Proofs.Shape.Compatibility
import OpGraph.Proofs.Document.OwnTypes
import OpGraph.Proofs.Graph.Table
import OpGraph.Proofs.Document.Table
import OpGraph.Proofs.Binary64
import OpGraph.Proofs.Yaml.Entry
import OpGraph.Proofs.Yaml.Integer
import OpGraph.Proofs.Document.Leaves
import OpGraph.Proofs.Document.Decode
import OpGraph.Proofs.Document.IntegerData
import OpGraph.Proofs.Order.Moment
import OpGraph.Proofs.Document.Nesting
