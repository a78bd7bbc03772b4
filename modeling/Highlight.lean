import Highlight.Assets.Directory
import Highlight.CommandLine
import Highlight.Main
import Highlight.Proofs.Tokenizer.Coverage
import Highlight.Proofs.Tokenizer.Reuse
import Highlight.Proofs.Tokenizer.Nesting
import Highlight.Proofs.Tokenizer.GivenUp
import Highlight.Proofs.Tokenizer.Choice
import Highlight.Proofs.Tokenizer.Outcome
import Highlight.Proofs.Tokenizer.Captures
import Highlight.Proofs.Incremental.Equivalence
import Highlight.Proofs.Incremental.Propagation
import Highlight.Proofs.Incremental.Columns
import Highlight.Proofs.Incremental.Runs
import Highlight.Proofs.Editor.Display
import Highlight.Proofs.Grammar.Closed
import Highlight.Proofs.Grammar.Flattening
import Highlight.Proofs.Grammar.Lexical
import Highlight.Proofs.Grammar.Paths
import Highlight.Proofs.Grammar.Supported
import Highlight.Proofs.Grammar.Substitution
import Highlight.Proofs.Document.Terminators
import Highlight.Proofs.Theme.Segments
import Highlight.Proofs.Theme.Expansion
import Highlight.Proofs.Theme.Colors
import Highlight.Proofs.Assets.Gathering
import Highlight.Proofs.Assets.Complete
import Highlight.Proofs.Assets.Directory
import Highlight.Proofs.Language.Registration
import Highlight.Proofs.Grammar.RoundTrip
import Highlight.Proofs.Grammar.CaptureTable
