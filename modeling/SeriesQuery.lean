import SeriesQuery.Main
import SeriesQuery.Proofs.Distinct
import SeriesQuery.Proofs.Double.Counting
import SeriesQuery.Proofs.Double.Order
import SeriesQuery.Proofs.Double.Storage
import SeriesQuery.Proofs.Exact
import SeriesQuery.Proofs.Except
import SeriesQuery.Proofs.Extremes
import SeriesQuery.Proofs.Fields
import SeriesQuery.Proofs.Filters
import SeriesQuery.Proofs.Index
import SeriesQuery.Proofs.Joins
import SeriesQuery.Proofs.Json.Codec
import SeriesQuery.Proofs.Json.Numbers
import SeriesQuery.Proofs.Json.Strings
import SeriesQuery.Proofs.Json.Values
import SeriesQuery.Proofs.Points.Collected
import SeriesQuery.Proofs.Points.Lookup
import SeriesQuery.Proofs.Points.Merged
import SeriesQuery.Proofs.Query.Answerable
import SeriesQuery.Proofs.Query.BareEvents
import SeriesQuery.Proofs.Query.Blocks
import SeriesQuery.Proofs.Query.Calls
import SeriesQuery.Proofs.Query.Clauses
import SeriesQuery.Proofs.Query.Concatenation
import SeriesQuery.Proofs.Query.Conditions
import SeriesQuery.Proofs.Query.Counting
import SeriesQuery.Proofs.Query.ErrorPlaces
import SeriesQuery.Proofs.Query.Failures
import SeriesQuery.Proofs.Query.FilterTexts
import SeriesQuery.Proofs.Query.Forms
import SeriesQuery.Proofs.Query.Gathering
import SeriesQuery.Proofs.Query.Groups
import SeriesQuery.Proofs.Query.Isolation
import SeriesQuery.Proofs.Query.LeafFilters
import SeriesQuery.Proofs.Query.Leaves
import SeriesQuery.Proofs.Query.Levels
import SeriesQuery.Proofs.Query.Locality
import SeriesQuery.Proofs.Query.Meaning
import SeriesQuery.Proofs.Query.Narrowing
import SeriesQuery.Proofs.Query.OffsetBracket
import SeriesQuery.Proofs.Query.OffsetClause
import SeriesQuery.Proofs.Query.OffsetTotals
import SeriesQuery.Proofs.Query.Operands
import SeriesQuery.Proofs.Query.Origins
import SeriesQuery.Proofs.Query.Partition
import SeriesQuery.Proofs.Query.Pieces
import SeriesQuery.Proofs.Query.Placement
import SeriesQuery.Proofs.Query.Places
import SeriesQuery.Proofs.Query.Planning
import SeriesQuery.Proofs.Query.Pointwise
import SeriesQuery.Proofs.Query.PrintedFilters
import SeriesQuery.Proofs.Query.Printing
import SeriesQuery.Proofs.Query.ReadAlike
import SeriesQuery.Proofs.Query.Reading
import SeriesQuery.Proofs.Query.References
import SeriesQuery.Proofs.Query.Reordering
import SeriesQuery.Proofs.Query.Routes
import SeriesQuery.Proofs.Query.Rules
import SeriesQuery.Proofs.Query.Shape
import SeriesQuery.Proofs.Query.Slices
import SeriesQuery.Proofs.Query.Stamps
import SeriesQuery.Proofs.Query.StepBracket
import SeriesQuery.Proofs.Query.Steps
import SeriesQuery.Proofs.Query.Survival
import SeriesQuery.Proofs.Query.Translation
import SeriesQuery.Proofs.Query.Widening
import SeriesQuery.Proofs.Reduce
import SeriesQuery.Proofs.Statistics
import SeriesQuery.Proofs.Store.Scan
import SeriesQuery.Proofs.Store.Writes
import SeriesQuery.Proofs.Text.Accepts
import SeriesQuery.Proofs.Text.Ensures
import SeriesQuery.Proofs.Text.Local
import SeriesQuery.Proofs.Text.Numerals
import SeriesQuery.Proofs.Text.Position
import SeriesQuery.Proofs.Text.Replies
import SeriesQuery.Proofs.Windows
