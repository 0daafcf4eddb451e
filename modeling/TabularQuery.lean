import TabularQuery.Main
import TabularQuery.Query.Step
import TabularQuery.Proofs.HundredthText
import TabularQuery.Proofs.NumberRoundTrip
import TabularQuery.Proofs.PaddedRows
import TabularQuery.Proofs.QueryHistory
import TabularQuery.Proofs.TextLoading
import TabularQuery.Proofs.ColumnNumbers
import TabularQuery.Proofs.StepHistory
import TabularQuery.Proofs.ColumnExtremes
import TabularQuery.Proofs.HundredthStability
import TabularQuery.Proofs.ExactArithmetic
import TabularQuery.Proofs.RepeatedSummary
import TabularQuery.Proofs.DisplayWidth
import TabularQuery.Proofs.GridBatch
import TabularQuery.Proofs.GridLayout
import TabularQuery.Proofs.GridBoxes
import TabularQuery.Proofs.GridReading
import TabularQuery.Proofs.HundredthOrder
import TabularQuery.Proofs.RowOrder
import TabularQuery.Proofs.ExpressionText
import TabularQuery.Proofs.QueryLog
import TabularQuery.Proofs.ArgumentSpellings
import TabularQuery.Proofs.ShortestText
import TabularQuery.Proofs.ExactOrder
import TabularQuery.Proofs.ComparisonTrichotomy
import TabularQuery.Proofs.ConditionGrammar
import TabularQuery.Proofs.SummaryGrammar
import TabularQuery.Proofs.LoadOutcome
import TabularQuery.Proofs.FirstExtreme
import TabularQuery.Proofs.ConditionSet
import TabularQuery.Proofs.NarrowedSummary
import TabularQuery.Proofs.WholeAverage
