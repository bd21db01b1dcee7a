import DocumentQuery.Backend.Observed
import DocumentQuery.OperatorDocument
import DocumentQuery.Service
import DocumentQuery.Settings.Reader
import DocumentQuery.Proofs.Action
import DocumentQuery.Proofs.Collection.Insertion
import DocumentQuery.Proofs.Disclosure.BlindSpot
import DocumentQuery.Proofs.Disclosure.Influence
import DocumentQuery.Proofs.Disclosure.Population
import DocumentQuery.Proofs.Disclosure.Requests
import DocumentQuery.Proofs.Expr.Selection
import DocumentQuery.Proofs.Expr.Translation
import DocumentQuery.Proofs.Expr.Verdict
import DocumentQuery.Proofs.Filter.Conjunction
import DocumentQuery.Proofs.Filter.Inclusive
import DocumentQuery.Proofs.Filter.Integer
import DocumentQuery.Proofs.Filter.Presence
import DocumentQuery.Proofs.Filter.Readable
import DocumentQuery.Proofs.Filter.Rendered
import DocumentQuery.Proofs.Journal.Interrupted
import DocumentQuery.Proofs.Journal.Latest
import DocumentQuery.Proofs.Plan.Families
import DocumentQuery.Proofs.Plan.Variants
import DocumentQuery.Proofs.Population.Agreement
import DocumentQuery.Proofs.Population.Frame
import DocumentQuery.Proofs.Population.Repetition
import DocumentQuery.Proofs.Population.Interruption
import DocumentQuery.Proofs.Projection.Collision
import DocumentQuery.Proofs.Projection.Inclusive
import DocumentQuery.Proofs.Projection.Merging
import DocumentQuery.Proofs.Schema.Closed
import DocumentQuery.Proofs.Service.Calls
import DocumentQuery.Proofs.Service.Deletion
import DocumentQuery.Proofs.Service.Failures
import DocumentQuery.Proofs.Service.Paging
import DocumentQuery.Proofs.Sort.Sorted
import DocumentQuery.Proofs.Store.Lookup
import DocumentQuery.Proofs.Store.Operations
import DocumentQuery.Proofs.Store.Refused
import DocumentQuery.Proofs.Sync.Recreated
import DocumentQuery.Proofs.Sync.Stamped
