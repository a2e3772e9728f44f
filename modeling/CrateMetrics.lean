import CrateMetrics.Main
import CrateMetrics.Note.Text
import CrateMetrics.Proofs.Cohesion.MethodGraph
import CrateMetrics.Proofs.Editing
import CrateMetrics.Proofs.ClassMeasurement
import CrateMetrics.Proofs.RollUp.Tree
import CrateMetrics.Proofs.RollUp.TreeEdits
import CrateMetrics.Proofs.RollUp.Rules
import CrateMetrics.Proofs.RollUp.ClassTree
import CrateMetrics.Proofs.RollUp.Folding
import CrateMetrics.Proofs.RollUp.Configured
import CrateMetrics.Proofs.RollUp.PackageTree
import CrateMetrics.Proofs.Running
import CrateMetrics.Proofs.Schedules
import CrateMetrics.Proofs.RollUp.Measuring
import CrateMetrics.Proofs.RollUp.ProjectTree
import CrateMetrics.Proofs.RollUp.Workspace
import CrateMetrics.Proofs.RollUp.Exact
import CrateMetrics.Proofs.RollUp.Contributions
import CrateMetrics.Proofs.RollUp.Independence
import CrateMetrics.Proofs.RollUp.Quantities
import CrateMetrics.Proofs.RollUp.Violations
import CrateMetrics.Proofs.RollUp.Packages
import CrateMetrics.Proofs.RollUp.Commutation
import CrateMetrics.Proofs.RollUp.Nodes
import CrateMetrics.Proofs.RollUp.UnitOrder
import CrateMetrics.Proofs.RollUp.Marks
import CrateMetrics.Proofs.QualifiedNames
import CrateMetrics.Proofs.Tallying
import CrateMetrics.Proofs.Walk.Bracketing
import CrateMetrics.Proofs.Walk.Nesting
import CrateMetrics.Proofs.Walk.UseLeaves
import CrateMetrics.Proofs.Walk.Placement
import CrateMetrics.Proofs.Walk.Attribution
import CrateMetrics.Proofs.Walk.TestCode
import CrateMetrics.Proofs.RollUp.Inventory
import CrateMetrics.Proofs.RollUp.Upkeep
import CrateMetrics.Proofs.Unparsed
import CrateMetrics.Proofs.Complexity
import CrateMetrics.Proofs.MethodBrackets
import CrateMetrics.Proofs.Walk.Expressions
import CrateMetrics.Proofs.Walk.Methods
import CrateMetrics.Proofs.Walk.Decisions
import CrateMetrics.Proofs.RollUp.Records
import CrateMetrics.Proofs.Signatures
import CrateMetrics.Proofs.Response
import CrateMetrics.Proofs.Walk.Calls
import CrateMetrics.Proofs.Cohesion.Growth
import CrateMetrics.Proofs.RollUp.Protocol
import CrateMetrics.Proofs.RollUp.Regrouping
import CrateMetrics.Proofs.Walk.Imports
import CrateMetrics.Proofs.ClassHistory
import CrateMetrics.Proofs.Walk.Relocation
import CrateMetrics.Proofs.Paths
import CrateMetrics.Proofs.SourceFiles
import CrateMetrics.Proofs.Walk.TestFlags
import CrateMetrics.Proofs.ModuleFiles
import CrateMetrics.Proofs.Walk.LeadingWords
