import DelegateClasses.Main
import DelegateClasses.Proofs.TypeTree.Brackets
import DelegateClasses.Proofs.TypeTree.Names
import DelegateClasses.Proofs.TypeTree.Grammar
import DelegateClasses.Proofs.TypeTree.Reading
import DelegateClasses.Proofs.TypeTree.Derivations
import DelegateClasses.Proofs.TypeTree.Balance
import DelegateClasses.Proofs.TypeTree.Faults
import DelegateClasses.Proofs.DottedName
import DelegateClasses.Proofs.Imports.Ownership
import DelegateClasses.Proofs.Imports.Spelling
import DelegateClasses.Proofs.Delegate.ClassRun
import DelegateClasses.Proofs.Delegate.GeneratedImports
import DelegateClasses.Proofs.Imports.Shadowing
import DelegateClasses.Proofs.Imports.History
import DelegateClasses.Proofs.Draft.Files
import DelegateClasses.Proofs.Template.Sections
import DelegateClasses.Proofs.Template.Partition
import DelegateClasses.Proofs.Delegate.Overriding
import DelegateClasses.Proofs.Delegate.Calls
import DelegateClasses.Proofs.Delegate.Body
import DelegateClasses.Proofs.Delegate.Filing
import DelegateClasses.Proofs.Processing.Visits
import DelegateClasses.Proofs.Processing.Turn
import DelegateClasses.Proofs.Processing.Rounds
import DelegateClasses.Proofs.Processing.Accounting
import DelegateClasses.Proofs.Processing.WaitingList
import DelegateClasses.Proofs.Processing.Invariants
import DelegateClasses.Proofs.Delegate.RoundFiles
import DelegateClasses.Proofs.Storage.Paths
import DelegateClasses.Proofs.Storage.Directories
import DelegateClasses.Proofs.Draft.Making
import DelegateClasses.Proofs.Delegate.OutputPath
import DelegateClasses.Proofs.Processing.Beside
import DelegateClasses.Proofs.Delegate.Paired
import DelegateClasses.Proofs.Delegate.TwoRuns
import DelegateClasses.Proofs.Delegate.Places
import DelegateClasses.Proofs.Delegate.Order
import DelegateClasses.Proofs.Declaration.Index
import DelegateClasses.Proofs.Document.Loading
import DelegateClasses.Proofs.Delegate.Verdicts
import DelegateClasses.Proofs.Delegate.Failures
import DelegateClasses.Proofs.CommandLine.Preparation
import DelegateClasses.Proofs.CommandLine.Rounds
import DelegateClasses.Proofs.CommandLine.Duplicates
import DelegateClasses.Proofs.Imports.Stability
import DelegateClasses.Proofs.Draft.Operations
import DelegateClasses.Proofs.Draft.Lifecycle
import DelegateClasses.Proofs.Text.Ascending
import DelegateClasses.Proofs.Imports.Reordered
import DelegateClasses.Proofs.Draft.Parts
import DelegateClasses.Proofs.Draft.Frame
import DelegateClasses.Proofs.Draft.Reordered
import DelegateClasses.Proofs.Delegate.Repeated
import DelegateClasses.Proofs.Processing.Chains
import DelegateClasses.Proofs.Text.Joining
import DelegateClasses.Proofs.Delegate.Layout
import DelegateClasses.Proofs.Delegate.LeftOut
import DelegateClasses.Proofs.Declaration.Repeated
import DelegateClasses.Proofs.Declaration.TypeRef
import DelegateClasses.Proofs.Delegate.SourceName
import DelegateClasses.Proofs.Storage.Spelling
import DelegateClasses.Proofs.CommandLine.Selection
import DelegateClasses.Proofs.Json.Grammar
import DelegateClasses.Proofs.Json.Reading
import DelegateClasses.Proofs.Document.Shape
import DelegateClasses.Proofs.Document.Nesting
import DelegateClasses.Proofs.Document.Mirroring
import DelegateClasses.Proofs.TypeTree.Splitting
import DelegateClasses.Proofs.TypeTree.Pairing
import DelegateClasses.Proofs.CommandLine.Debugging
import DelegateClasses.Proofs.CommandLine.Tally
