import RowQuery.Demo.Tour
import RowQuery.Journal
import RowQuery.Main
import RowQuery.Proofs.BufferWrites
import RowQuery.Proofs.CaseInsensitivity
import RowQuery.Proofs.CatalogHistory
import RowQuery.Proofs.ComparisonLaws
import RowQuery.Proofs.CompileErrors
import RowQuery.Proofs.FusionNormalForm
import RowQuery.Proofs.Materialization
import RowQuery.Proofs.NegationNormalForm
import RowQuery.Proofs.ParserAnswers
import RowQuery.Proofs.PipelineReads
import RowQuery.Proofs.RowTexts
import RowQuery.Proofs.Separators
import RowQuery.Proofs.ShapeTexts
import RowQuery.Proofs.TextRoundTrip
import RowQuery.Proofs.TokenAppend
import RowQuery.Proofs.WideSelections
import RowQuery.Proofs.WidenedLiterals
import RowQuery.Record
import RowQuery.Shape.Reader
