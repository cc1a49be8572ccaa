import Stencil.Main
import Stencil.Registry.Sharing
import Stencil.Proofs.Text.Occurrence
import Stencil.Proofs.Text.Offset
import Stencil.Proofs.Scan.Finding
import Stencil.Proofs.Scan.Leftmost
import Stencil.Proofs.Scan.Layout
import Stencil.Proofs.Engine.Values
import Stencil.Proofs.Substitution.Splicing
import Stencil.Proofs.Substitution.Places
import Stencil.Proofs.Draft.Basic
import Stencil.Proofs.Text.Parts
import Stencil.Proofs.Draft.Argument
import Stencil.Proofs.Draft.Chain
import Stencil.Proofs.Draft.Scan
import Stencil.Proofs.Scan.Source
import Stencil.Proofs.Scan.Cutting
import Stencil.Proofs.Engine.Memo
import Stencil.Proofs.Engine.Modes
import Stencil.Proofs.Json.Assignment
import Stencil.Proofs.Skeleton.Survivors
import Stencil.Proofs.Jinja.Lexing
import Stencil.Proofs.Text.Case
import Stencil.Proofs.Jinja.Reading
import Stencil.Proofs.Engine.Standard
import Stencil.Proofs.Jinja.Evaluation
import Stencil.Proofs.Jinja.Pages
import Stencil.Proofs.Jinja.Agreement
import Stencil.Proofs.Engine.Selection
import Stencil.Proofs.Skeleton.Rendering
import Stencil.Proofs.Entries.Pairs
import Stencil.Proofs.Registry.History
import Stencil.Proofs.Json.Document
import Stencil.Proofs.Json.Pretty
import Stencil.Proofs.Skeleton.Printing
import Stencil.Proofs.Chain.Splitting
import Stencil.Proofs.Chain.Depth
import Stencil.Proofs.Chain.Calls
import Stencil.Proofs.Draft.Canonical
import Stencil.Proofs.Arguments.Regions
import Stencil.Proofs.Engine.Unknown
import Stencil.Proofs.Decimal.Plain
import Stencil.Proofs.Jinja.Numbers
import Stencil.Proofs.Jinja.Faithful
import Stencil.Proofs.Json.Writing
import Stencil.Proofs.Json.Grammar
import Stencil.Proofs.Json.Flattening
import Stencil.Proofs.Scan.Workable
import Stencil.Proofs.Options.Documents
import Stencil.Proofs.CommandLine.Options
import Stencil.Proofs.Substitution.Gaps
import Stencil.Proofs.Jinja.Closing
import Stencil.Proofs.Jinja.Literal
