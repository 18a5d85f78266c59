import BindingGraph.Expr.Occurrence
import BindingGraph.Expr.Substitute
import BindingGraph.Graph.Run
import BindingGraph.Graph.Unfold
import BindingGraph.Json.Canonical
import BindingGraph.LayoutUnit.Verdict
import BindingGraph.Main
import BindingGraph.Proofs.Text.SelfDelimiting
import BindingGraph.Text.Position
import BindingGraph.Proofs.Expr.KeyInjective
import BindingGraph.Proofs.Graph.WellFormed
import BindingGraph.Proofs.Expr.Names
import BindingGraph.Proofs.Expr.Occurrence
import BindingGraph.Proofs.Expr.Path
import BindingGraph.Proofs.Graph.Growth
import BindingGraph.Proofs.Graph.Coherent
import BindingGraph.Proofs.Graph.Settle
import BindingGraph.Proofs.Graph.Evaluation
import BindingGraph.Proofs.Graph.Agreement
import BindingGraph.Proofs.Graph.Collection
import BindingGraph.Proofs.Graph.Steps
import BindingGraph.Proofs.Graph.Publication
import BindingGraph.Proofs.Graph.Operations
import BindingGraph.Proofs.Graph.Faithful
import BindingGraph.Proofs.Graph.Watching
import BindingGraph.Proofs.Graph.Representation
import BindingGraph.Proofs.Graph.Units
import BindingGraph.Proofs.Graph.Sharing
import BindingGraph.Proofs.Graph.Declaration
import BindingGraph.Proofs.Graph.Places
import BindingGraph.Proofs.Graph.Observation
import BindingGraph.Proofs.Graph.Readers
import BindingGraph.Proofs.Plan.TreePlan
import BindingGraph.Proofs.Plan.Compile
import BindingGraph.Proofs.Plan.Composition
import BindingGraph.Proofs.Plan.Observers
import BindingGraph.Proofs.Plan.Canonical
import BindingGraph.Proofs.Graph.Typing
import BindingGraph.Proofs.Graph.Order
import BindingGraph.Proofs.Graph.Journal
import BindingGraph.Proofs.Graph.Blame
import BindingGraph.Proofs.Graph.Narrowing
import BindingGraph.Proofs.Graph.KeptDependencies
import BindingGraph.Proofs.Graph.ClassPath
import BindingGraph.Proofs.Graph.Receiver
import BindingGraph.Proofs.Graph.Getter
import BindingGraph.Proofs.Catalog.WellNamed
import BindingGraph.Proofs.Catalog.Lineage
import BindingGraph.Proofs.Catalog.Acceptance
import BindingGraph.Proofs.Catalog.Superclass
import BindingGraph.Proofs.Expr.Alias
import BindingGraph.Proofs.Catalog.Alias
import BindingGraph.Proofs.Catalog.Precedence
import BindingGraph.Proofs.Plan.Renaming
import BindingGraph.Proofs.Codec.SourceExpr
import BindingGraph.Proofs.CommandLine.Output
import BindingGraph.Proofs.CommandLine.Check
import BindingGraph.Proofs.Json.Order
import BindingGraph.Proofs.Codec.Catalog
import BindingGraph.Proofs.Codec.Plan
import BindingGraph.Proofs.LayoutUnit.Imports
import BindingGraph.Proofs.Catalog.Ancestry
import BindingGraph.Proofs.Graph.Enumeration
import BindingGraph.Proofs.Graph.Operands
import BindingGraph.Proofs.Graph.Arithmetic
import BindingGraph.Proofs.Text.Position
import BindingGraph.Proofs.Diagnostic.Report
import BindingGraph.Proofs.Diagnostic.Words
