import DocQuery.Aggregation
import DocQuery.Json.Records
import DocQuery.Json.Value
import DocQuery.Pagination
import DocQuery.Store
import DocQuery.Value.Read
import DocQuery.Proofs.Filter.Leaves
import DocQuery.Proofs.Filter.Meaning
import DocQuery.Proofs.Filter.Compound
import DocQuery.Proofs.Collation.Equality
import DocQuery.Proofs.Update.Identity
import DocQuery.Proofs.Store.Run
import DocQuery.Proofs.Store.Keys
import DocQuery.Proofs.Store.Addressing
import DocQuery.Proofs.Store.Survival
import DocQuery.Proofs.Pagination.Reading
import DocQuery.Proofs.Pagination.Window
import DocQuery.Proofs.Pagination.Partition
import DocQuery.Proofs.Pagination.Drift
import DocQuery.Proofs.Pagination.Projected
import DocQuery.Proofs.Predicate.Reach
import DocQuery.Proofs.Pagination.Joined
import DocQuery.Proofs.Store.Reads
import DocQuery.Proofs.Predicate.Widening
import DocQuery.Proofs.Filter.Evaluable
import DocQuery.Proofs.Filter.Forgetting
import DocQuery.Proofs.Filter.Written
import DocQuery.Proofs.Store.Interrupted
import DocQuery.Proofs.Store.Staging
import DocQuery.Proofs.Store.Inserts
import DocQuery.Proofs.Value.Same
import DocQuery.Proofs.Update.Exact
import DocQuery.Proofs.Store.Picked
import DocQuery.Proofs.Store.Counting
import DocQuery.Proofs.Collation.Order
import DocQuery.Proofs.Pagination.Whole
import DocQuery.Proofs.Store.Refused
import DocQuery.Proofs.Collation.Integers
import DocQuery.Proofs.Sorting.Order
import DocQuery.Proofs.Predicate.Arrays
import DocQuery.Proofs.Pipeline.Joining
import DocQuery.Proofs.Pagination.Flattened
import DocQuery.Proofs.Aggregation.Groups
import DocQuery.Proofs.Aggregation.Extremes
import DocQuery.Proofs.Aggregation.Counts
import DocQuery.Proofs.Aggregation.Totals
import DocQuery.Proofs.Update.Frame
import DocQuery.Proofs.Projection.Excluding
import DocQuery.Proofs.Projection.Including
import DocQuery.Proofs.Aggregation.Distinct
import DocQuery.Proofs.Path.Repeating
import DocQuery.Proofs.Value.Reflexive
import DocQuery.Proofs.Store.Repeated
import DocQuery.Proofs.Store.Deleting
import DocQuery.Proofs.Store.Arrival
import DocQuery.Proofs.Pipeline.Unwinding
import DocQuery.Proofs.Collation.Documents
import DocQuery.Proofs.Collation.Agreement
import DocQuery.Proofs.Predicate.Inclusive
import DocQuery.Proofs.Projection.Listed
import DocQuery.Proofs.Aggregation.GroupSums
import DocQuery.Proofs.Filter.Narrowing
import DocQuery.Proofs.Sorting.Appending
import DocQuery.Proofs.Json.Records
import DocQuery.Proofs.Filter.Members
