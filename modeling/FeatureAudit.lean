import FeatureAudit.Abort
import FeatureAudit.Analysis.CoOccurrence
import FeatureAudit.Analysis.Regression
import FeatureAudit.Analysis.Report
import FeatureAudit.Analysis.Significance
import FeatureAudit.Analysis.Trend
import FeatureAudit.Concordance
import FeatureAudit.Config
import FeatureAudit.Config.Coercion
import FeatureAudit.Config.Criteria
import FeatureAudit.Config.Document
import FeatureAudit.Config.File
import FeatureAudit.Config.Limit
import FeatureAudit.Config.Names
import FeatureAudit.Config.Threshold
import FeatureAudit.Config.Vocabulary
import FeatureAudit.Corpus.Discovery
import FeatureAudit.Corpus.FileTree
import FeatureAudit.Corpus.Load
import FeatureAudit.Corpus.Parser
import FeatureAudit.Corpus.Source
import FeatureAudit.Corpus.SourcePath
import FeatureAudit.Decimal.Binary64
import FeatureAudit.Decimal.Fixed
import FeatureAudit.Decimal.Integer
import FeatureAudit.Decimal.Real
import FeatureAudit.Decimal.Shortest
import FeatureAudit.Detect.AntiPattern
import FeatureAudit.Detect.Registry
import FeatureAudit.Detect.Survey
import FeatureAudit.Detect.TagQuality
import FeatureAudit.Dialect
import FeatureAudit.Document.Cells
import FeatureAudit.Document.Line
import FeatureAudit.Document.Print
import FeatureAudit.Document.Session
import FeatureAudit.EditDistance
import FeatureAudit.Feature
import FeatureAudit.Feature.Draft
import FeatureAudit.Finding
import FeatureAudit.Notice
import FeatureAudit.Outcome
import FeatureAudit.Pattern
import FeatureAudit.Pattern.Choice
import FeatureAudit.Pattern.Engine
import FeatureAudit.Pattern.Reader
import FeatureAudit.Proofs.Analysis.Arrangement
import FeatureAudit.Proofs.Analysis.CoOccurrence
import FeatureAudit.Proofs.Analysis.NameMap
import FeatureAudit.Proofs.Analysis.Regression
import FeatureAudit.Proofs.Analysis.Similar
import FeatureAudit.Proofs.Analysis.Spelling
import FeatureAudit.Proofs.Analysis.Trend
import FeatureAudit.Proofs.Config.Categories
import FeatureAudit.Proofs.Config.Document
import FeatureAudit.Proofs.Config.Resolution
import FeatureAudit.Proofs.Config.RoundTrip
import FeatureAudit.Proofs.Config.Usable
import FeatureAudit.Proofs.Corpus.Batch
import FeatureAudit.Proofs.Corpus.Discovery
import FeatureAudit.Proofs.Corpus.Extent
import FeatureAudit.Proofs.Corpus.FileTree
import FeatureAudit.Proofs.Corpus.Load
import FeatureAudit.Proofs.Corpus.Reading
import FeatureAudit.Proofs.Corpus.Schedule
import FeatureAudit.Proofs.Corpus.Walk
import FeatureAudit.Proofs.Detect.Canonical
import FeatureAudit.Proofs.Detect.Duplicates
import FeatureAudit.Proofs.Detect.Locality
import FeatureAudit.Proofs.Detect.Places
import FeatureAudit.Proofs.Detect.Registration
import FeatureAudit.Proofs.Detect.Settings
import FeatureAudit.Proofs.Detect.Shape
import FeatureAudit.Proofs.Detect.Spelling
import FeatureAudit.Proofs.Detect.Typos
import FeatureAudit.Proofs.Dialect.Detection
import FeatureAudit.Proofs.Dialect.Patterns
import FeatureAudit.Proofs.Dialect.Reading
import FeatureAudit.Proofs.Document.Boundary
import FeatureAudit.Proofs.Document.Canonical
import FeatureAudit.Proofs.Document.Cells
import FeatureAudit.Proofs.Document.Columns
import FeatureAudit.Proofs.Document.Frame
import FeatureAudit.Proofs.Document.FreeText
import FeatureAudit.Proofs.Document.Layout
import FeatureAudit.Proofs.Document.Line
import FeatureAudit.Proofs.Document.Opening
import FeatureAudit.Proofs.Document.Outside
import FeatureAudit.Proofs.Document.Paragraphs
import FeatureAudit.Proofs.Document.Prose
import FeatureAudit.Proofs.Document.RoundTrip
import FeatureAudit.Proofs.Document.Session
import FeatureAudit.Proofs.Document.Skeleton
import FeatureAudit.Proofs.Document.TableGap
import FeatureAudit.Proofs.Document.TagShares
import FeatureAudit.Proofs.Document.WellFormed
import FeatureAudit.Proofs.EditDistance
import FeatureAudit.Proofs.Run.Selection
import FeatureAudit.Proofs.Run.Status
import FeatureAudit.Proofs.Step.Category
import FeatureAudit.Proofs.Step.Keyword
import FeatureAudit.Proofs.Step.Pronoun
import FeatureAudit.Proofs.Step.Quotation
import FeatureAudit.Proofs.Tag.Congruence
import FeatureAudit.Proofs.Tag.Distinct
import FeatureAudit.Proofs.Tag.Name
import FeatureAudit.Proofs.Tag.Order
import FeatureAudit.Proofs.Tag.Spelling
import FeatureAudit.Proofs.Tag.Tally
import FeatureAudit.Proofs.Text.Blank
import FeatureAudit.Proofs.Text.Capitals
import FeatureAudit.Proofs.Text.Lines
import FeatureAudit.Proofs.Text.Order
import FeatureAudit.Proofs.Text.Utf8
import FeatureAudit.Run
import FeatureAudit.Severity
import FeatureAudit.Step
import FeatureAudit.Step.Conjunction
import FeatureAudit.Step.Pronoun
import FeatureAudit.Step.Tense
import FeatureAudit.Step.Words
import FeatureAudit.Tag
import FeatureAudit.Tag.PriorityStyle
import FeatureAudit.Tag.Tally
import FeatureAudit.Tag.Taxonomy
import FeatureAudit.Text.Alphanumeric
import FeatureAudit.Text.Ascending
import FeatureAudit.Text.Blank
import FeatureAudit.Text.Case
import FeatureAudit.Text.Case.Context
import FeatureAudit.Text.Case.Folding
import FeatureAudit.Text.Case.Lowering
import FeatureAudit.Text.Case.Raising
import FeatureAudit.Text.Case.Table
import FeatureAudit.Text.CharClass
import FeatureAudit.Text.Digit
import FeatureAudit.Text.Identifier
import FeatureAudit.Text.Lines
import FeatureAudit.Text.Order
import FeatureAudit.Text.Printable
import FeatureAudit.Text.Quoted
import FeatureAudit.Text.Search
import FeatureAudit.Text.Utf8
import FeatureAudit.Text.WordChar
import FeatureAudit.Toml
import FeatureAudit.Toml.Number
import FeatureAudit.Toml.Tables
import FeatureAudit.Toml.Text
import FeatureAudit.Value
import FeatureAudit.Value.Moment
import FeatureAudit.Warning.Advice
import FeatureAudit.Warning.Type
