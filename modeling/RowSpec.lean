import RowSpec.Calendar.Date
import RowSpec.Calendar.Instant
import RowSpec.Calendar.Time
import RowSpec.Catalog.Basic
import RowSpec.Catalog.Interface
import RowSpec.Config.Basic
import RowSpec.Config.Section
import RowSpec.Decimal
import RowSpec.Digest.Sha256
import RowSpec.Document.Call
import RowSpec.Document.Expr
import RowSpec.Document.Tree
import RowSpec.Duration
import RowSpec.Error.Field
import RowSpec.Error.Repository
import RowSpec.Error.Spec
import RowSpec.Error.Storage
import RowSpec.Evaluation.Command
import RowSpec.Evaluation.Page
import RowSpec.Evaluation.Run
import RowSpec.Evaluation.Shape
import RowSpec.Expr.Basic
import RowSpec.Expr.Eval
import RowSpec.Expr.Reference
import RowSpec.Family
import RowSpec.Journal
import RowSpec.Proofs.Catalog.Tables
import RowSpec.Proofs.Decimal
import RowSpec.Proofs.Evaluation.CanonicalShape
import RowSpec.Proofs.Evaluation.Meaning
import RowSpec.Proofs.Evaluation.Regrouping
import RowSpec.Proofs.Expr.Faithful
import RowSpec.Proofs.Expr.Membership
import RowSpec.Proofs.Expr.Names
import RowSpec.Proofs.Expr.Search
import RowSpec.Proofs.FirstAppearances
import RowSpec.Proofs.Query.Filtering
import RowSpec.Proofs.Query.Grouping
import RowSpec.Proofs.Query.Ordering
import RowSpec.Proofs.Query.Replay
import RowSpec.Proofs.Record.LawfulIdentifiers
import RowSpec.Proofs.Repository.BulkChanges
import RowSpec.Proofs.Repository.BulkUpdates
import RowSpec.Proofs.Repository.Disabling
import RowSpec.Proofs.Repository.First
import RowSpec.Proofs.Repository.OrderedMap
import RowSpec.Proofs.Repository.Paging
import RowSpec.Proofs.Sorting
import RowSpec.Proofs.Specification.Acceptance
import RowSpec.Proofs.Specification.Calls
import RowSpec.Proofs.Specification.Canonical
import RowSpec.Proofs.Specification.IncludeChains
import RowSpec.Proofs.Specification.Includes
import RowSpec.Proofs.Specification.OrderingChains
import RowSpec.Proofs.Specification.Orderings
import RowSpec.Proofs.Store.Assignments
import RowSpec.Proofs.Store.Bulk
import RowSpec.Proofs.Store.Identifiers
import RowSpec.Proofs.Text.LowerCase
import RowSpec.Proofs.Text.Reading
import RowSpec.Proofs.Text.Wildcard
import RowSpec.Proofs.UnitOfWork.ActiveTransaction
import RowSpec.Proofs.UnitOfWork.Behind
import RowSpec.Proofs.UnitOfWork.Cells
import RowSpec.Proofs.UnitOfWork.Contents
import RowSpec.Proofs.UnitOfWork.Disposal
import RowSpec.Proofs.UnitOfWork.FailedRequests
import RowSpec.Proofs.UnitOfWork.Instances
import RowSpec.Proofs.UnitOfWork.Lines
import RowSpec.Proofs.UnitOfWork.Omission
import RowSpec.Proofs.UnitOfWork.Passages
import RowSpec.Proofs.UnitOfWork.Play
import RowSpec.Proofs.UnitOfWork.Substitution
import RowSpec.Proofs.UnitOfWork.Turns
import RowSpec.Proofs.Value.Literals
import RowSpec.Proofs.Value.Numerals
import RowSpec.Proofs.Value.Order
import RowSpec.Proofs.Workspace.Copies
import RowSpec.Proofs.Workspace.Coupling
import RowSpec.Proofs.Workspace.Effect
import RowSpec.Proofs.Workspace.FailedWrites
import RowSpec.Proofs.Workspace.Identifiers
import RowSpec.Proofs.Workspace.Isolation
import RowSpec.Proofs.Workspace.Parallel
import RowSpec.Proofs.Workspace.Resolve
import RowSpec.Proofs.Workspace.RolledBack
import RowSpec.Proofs.Workspace.Running
import RowSpec.Proofs.Workspace.Settled
import RowSpec.Proofs.Yields
import RowSpec.Query.Basic
import RowSpec.Query.Directive
import RowSpec.Record
import RowSpec.Record.Identifier
import RowSpec.Record.Keyed
import RowSpec.Repository.Basic
import RowSpec.Repository.Reader
import RowSpec.Repository.Reading
import RowSpec.Specification.Basic
import RowSpec.Specification.Builder
import RowSpec.Specification.Canonical
import RowSpec.Specification.Facets
import RowSpec.Store.Session
import RowSpec.Store.Storage
import RowSpec.Store.Table
import RowSpec.Text.CaseTable
import RowSpec.Text.Digits
import RowSpec.Text.LowerCase
import RowSpec.Text.Wildcard
import RowSpec.UnitOfWork.Basic
import RowSpec.UnitOfWork.Gate
import RowSpec.UnitOfWork.Scene
import RowSpec.UnitOfWork.Task
import RowSpec.Uuid
import RowSpec.Value.Basic
import RowSpec.Value.Order
import RowSpec.Workspace.Action
import RowSpec.Workspace.Basic
import RowSpec.Workspace.Schedule
