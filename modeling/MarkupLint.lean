import MarkupLint.Main
import MarkupLint.Proofs.Clean.Environments
import MarkupLint.Proofs.Mapping.Chain
import MarkupLint.Proofs.Provenance.Tracking
import MarkupLint.Proofs.Pattern.Captures
import MarkupLint.Proofs.Lines.Positions
import MarkupLint.Proofs.Clean.Descent
import MarkupLint.Proofs.Rule.Ranges
import MarkupLint.Proofs.Linter.Locations
import MarkupLint.Workspace
import MarkupLint.Proofs.Workspace.Coherence
import MarkupLint.Proofs.Clean.Loops
import MarkupLint.Proofs.Linter.Blacklist
import MarkupLint.Proofs.CommandLine.ExitCode
import MarkupLint.Proofs.CommandLine.Spellings
import MarkupLint.Proofs.Edit.Accounting
import MarkupLint.Proofs.Mapping.Relational
import MarkupLint.Proofs.Provenance.Checked
import MarkupLint.Proofs.Linter.Failures
import MarkupLint.Proofs.Rule.Captions
import MarkupLint.Proofs.Pattern.Language
import MarkupLint.Proofs.Pattern.Words
import MarkupLint.Proofs.Rule.HeadingLines
import MarkupLint.Proofs.Rule.HeadingTree
import MarkupLint.Proofs.Rule.SectionSizes
import MarkupLint.Proofs.Rule.FigureMarks
import MarkupLint.Proofs.Rule.FigureLabels
import MarkupLint.Proofs.Rule.Visits
import MarkupLint.Proofs.Pattern.Quoted
import MarkupLint.Proofs.Rule.References
import MarkupLint.Proofs.Clean.Comments
import MarkupLint.Proofs.Edit.Sparing
import MarkupLint.Proofs.Clean.Patterns
import MarkupLint.Proofs.Clean.Braces
import MarkupLint.Proofs.Report.Excerpt
import MarkupLint.Proofs.Lines.Conversion
import MarkupLint.Proofs.Document.Lines
import MarkupLint.Proofs.Table.Fields
import MarkupLint.Proofs.Table.RoundTrip
import MarkupLint.Proofs.Range.Rounding
import MarkupLint.Proofs.Range.Canonical
