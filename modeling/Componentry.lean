import Componentry.Attributes.Merge
import Componentry.Family
import Componentry.Main
import Componentry.Options
import Componentry.Naming.Suggestion
import Componentry.Splitting.Statistics
import Componentry.Stylesheet.Converter
import Componentry.Splitting.Splitter
import Componentry.Proofs.Naming.Identifier
import Componentry.Proofs.Naming.Proposal
import Componentry.Proofs.Conversion.Files
import Componentry.Proofs.Document.Walk
import Componentry.Proofs.Document.Traversal
import Componentry.Proofs.Document.Arena
import Componentry.Proofs.Document.Reading
import Componentry.Proofs.Document.Image
import Componentry.Proofs.Containment
import Componentry.Proofs.Document.Lineage
import Componentry.Proofs.Splitting.Extraction
import Componentry.Proofs.Splitting.Choice
import Componentry.Proofs.Splitting.Components
import Componentry.Proofs.Splitting.ClosedForm
import Componentry.Proofs.Splitting.Page
import Componentry.Proofs.Splitting.Spelling
import Componentry.Proofs.Text.Lower
import Componentry.Proofs.Text.Erasure
import Componentry.Proofs.Dict
import Componentry.Proofs.Stylesheet.Declaration
import Componentry.Proofs.Stylesheet.Rule
import Componentry.Proofs.Stylesheet.ClassName
import Componentry.Proofs.Stylesheet.Classing
import Componentry.Proofs.Stylesheet.Restyled
import Componentry.Proofs.Stylesheet.Extraction
import Componentry.Proofs.Naming.Calls
import Componentry.Proofs.Naming.Spelling
import Componentry.Proofs.Markup.Tidy
import Componentry.Proofs.Document.Tidy
import Componentry.Proofs.Document.Printer
import Componentry.Proofs.Jsx.Rendering
import Componentry.Proofs.Outcome
import Componentry.Proofs.Pattern.Groups
import Componentry.Proofs.Pattern.Similarity
import Componentry.Proofs.Splitting.Membership
import Componentry.Proofs.Markup.Refusal
import Componentry.Proofs.Selector.Mistakes
import Componentry.Proofs.Selector.Rejection
import Componentry.Proofs.Section.Candidate
import Componentry.Proofs.Section.Sweep
import Componentry.Proofs.Section.Outermost
import Componentry.Proofs.Conversion.Content
import Componentry.Proofs.Text.Lines
import Componentry.Proofs.Layout.Punctuation
import Componentry.Proofs.Layout.Arrangement
import Componentry.Proofs.Layout.NormalForm
import Componentry.Proofs.Jsx.Emission
import Componentry.Proofs.Jsx.Escaping
import Componentry.Proofs.Jsx.Expression
import Componentry.Proofs.Jsx.Brackets
import Componentry.Proofs.Jsx.Layout
import Componentry.Proofs.Stylesheet.Sharing
import Componentry.Proofs.Conversion.Warnings
import Componentry.Proofs.Conversion.Stages
import Componentry.Proofs.Conversion.Spelling
import Componentry.Proofs.Conversion.Sheets
import Componentry.Proofs.Markup.Reference
import Componentry.Proofs.Markup.Scanning
import Componentry.Proofs.Markup.Building
import Componentry.Proofs.Attributes.Style
import Componentry.Proofs.Attributes.Rereading
import Componentry.Proofs.Document.Rereading
import Componentry.Proofs.Document.WrittenPage
import Componentry.Proofs.Stylesheet.Converter
import Componentry.Proofs.Jsx.Words
import Componentry.Proofs.Jsx.Names
import Componentry.Proofs.Jsx.Elements
import Componentry.Proofs.Jsx.Tables
import Componentry.Proofs.Jsx.Literal
import Componentry.Proofs.Jsx.Detection
import Componentry.Proofs.CommandLine.Answers
import Componentry.Proofs.Settings
import Componentry.Proofs.Files.Confinement
import Componentry.Proofs.Stylesheet.Repetition
import Componentry.Proofs.Stylesheet.Variables
import Componentry.Proofs.Splitting.Splitter
import Componentry.Proofs.Splitting.Rejection
import Componentry.Proofs.Attributes.Merge
import Componentry.Proofs.Splitting.Statistics
