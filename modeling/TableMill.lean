import TableMill.Store.Journal
import TableMill.Batch.Run
import TableMill.Proofs.Selectors
import TableMill.Proofs.Bindings
import TableMill.Proofs.StoreOrder
import TableMill.Proofs.Reading
import TableMill.Proofs.LeftScan
import TableMill.Proofs.NestedLoop
import TableMill.Proofs.Outcome
import TableMill.Proofs.ColumnLists
import TableMill.Proofs.Listing
import TableMill.Proofs.Arrivals
import TableMill.Proofs.StoredPage
import TableMill.Proofs.RightRows
import TableMill.Proofs.JoinPage
import TableMill.Proofs.JoinRow
import TableMill.Proofs.Accepted
import TableMill.Proofs.PageColumns
import TableMill.Proofs.JoinRefinement
import TableMill.Proofs.KeyOrder
import TableMill.Proofs.DistinctWrites
import TableMill.Proofs.ProbeSoundness
import TableMill.Proofs.ProbeCompleteness
import TableMill.Proofs.RowFailures
import TableMill.Proofs.PageErrors
import TableMill.Proofs.PageIsolation
import TableMill.Proofs.CalmStore
import TableMill.Proofs.RowByRow
import TableMill.Proofs.TokenSplit
import TableMill.Proofs.RowBatches
import TableMill.Proofs.TableRuns
import TableMill.Proofs.DistinctRuns
import TableMill.Proofs.Grammar
import TableMill.Proofs.ParserCompleteness
import TableMill.Proofs.Parsing
import TableMill.Proofs.OrphanKeys
import TableMill.Proofs.TransientFaults
import TableMill.Proofs.History
import TableMill.Proofs.PoolEnds
import TableMill.Proofs.TaskLogs
import TableMill.Proofs.DataFirstLogs
import TableMill.Proofs.DataFirstWrites
import TableMill.Proofs.Lexing
import TableMill.Proofs.Printing
import TableMill.Proofs.UsedFields
import TableMill.Proofs.TypedPages
import TableMill.Proofs.JoinKeys
import TableMill.Proofs.NameErrors
import TableMill.Proofs.CheckedNames
import TableMill.Proofs.CheckedNodes
import TableMill.Proofs.JoinNames
import TableMill.Proofs.NameSafety
import TableMill.Proofs.ExactArithmetic
import TableMill.Proofs.PageLists
import TableMill.Proofs.CompleteRuns
import TableMill.Proofs.IndexDefinitions
import TableMill.Proofs.RunningTotals
import TableMill.Proofs.RunningExtremes
import TableMill.Proofs.TokenStores
import TableMill.Proofs.CallSites
import TableMill.Proofs.RunningTexts
import TableMill.Proofs.BoundCalls
import TableMill.Proofs.FailedCalls
import TableMill.Proofs.InstantKeys
import TableMill.Proofs.TextKeys
import TableMill.Proofs.KeyWidths
import TableMill.Proofs.TextConversions
import TableMill.Proofs.DecimalRange
import TableMill.Proofs.MachineRuns
import TableMill.Proofs.CollectedColumns
import TableMill.Proofs.LayoutTokens
import TableMill.Proofs.LayoutCodes
import TableMill.Proofs.LayoutOffsets
import TableMill.Proofs.CalendarRange
import TableMill.Proofs.UtcTimes
import TableMill.Proofs.PaddedNumbers
import TableMill.Proofs.HexNumbers
import TableMill.Proofs.CompleteListing
import TableMill.Proofs.TokenPartition
import TableMill.Proofs.PageLoads
import TableMill.Proofs.TokenInverse
import TableMill.Proofs.WriteBounds
