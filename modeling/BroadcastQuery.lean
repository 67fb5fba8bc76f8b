import BroadcastQuery.Text.Basic
import BroadcastQuery.Text.Blank
import BroadcastQuery.Text.Ranges
import BroadcastQuery.Text.CaseTable
import BroadcastQuery.Text.Casing
import BroadcastQuery.Text.MarkTable
import BroadcastQuery.Text.HiddenTable
import BroadcastQuery.Text.Literal
import BroadcastQuery.Text.Form
import BroadcastQuery.Text.ClusterTable
import BroadcastQuery.Text.Cluster
import BroadcastQuery.Text.Typed
import BroadcastQuery.Located
import BroadcastQuery.Keyword
import BroadcastQuery.Token
import BroadcastQuery.Token.Scan
import BroadcastQuery.Draft
import BroadcastQuery.Draft.Problem
import BroadcastQuery.Draft.Reading
import BroadcastQuery.Key
import BroadcastQuery.Node
import BroadcastQuery.Node.Wire
import BroadcastQuery.Node.Display
import BroadcastQuery.Node.Optimization
import BroadcastQuery.Table
import BroadcastQuery.Config
import BroadcastQuery.Binary64
import BroadcastQuery.Json.Failure
import BroadcastQuery.Json.Decoder
import BroadcastQuery.Config.File
import BroadcastQuery.Vocabulary
import BroadcastQuery.Validation
import BroadcastQuery.Query
import BroadcastQuery.Date
import BroadcastQuery.Request
import BroadcastQuery.Response
import BroadcastQuery.Dispatch
import BroadcastQuery.Console
import BroadcastQuery.Main
import BroadcastQuery.Proofs.Runs
import BroadcastQuery.Proofs.Wire
import BroadcastQuery.Proofs.Ordering
import BroadcastQuery.Proofs.Tables
import BroadcastQuery.Proofs.CanonicalKey
import BroadcastQuery.Proofs.Reordering
import BroadcastQuery.Proofs.Splicing
import BroadcastQuery.Proofs.Meaning
import BroadcastQuery.Proofs.Scanning
import BroadcastQuery.Proofs.Lexemes
import BroadcastQuery.Proofs.Positions
import BroadcastQuery.Proofs.Grammar
import BroadcastQuery.Proofs.Grammar.Ambiguity
import BroadcastQuery.Proofs.Grammar.Reader
import BroadcastQuery.Proofs.Grammar.Soundness
import BroadcastQuery.Proofs.Grammar.Parsing
import BroadcastQuery.Proofs.CanonicalForm
import BroadcastQuery.Proofs.Wire.Decoding
import BroadcastQuery.Proofs.Congruence
import BroadcastQuery.Proofs.Grouping
import BroadcastQuery.Proofs.Worklist
import BroadcastQuery.Proofs.Display
import BroadcastQuery.Proofs.Pieces
import BroadcastQuery.Proofs.Turns
import BroadcastQuery.Proofs.Chains
import BroadcastQuery.Proofs.Lowering
import BroadcastQuery.Proofs.Names
import BroadcastQuery.Proofs.Violations
import BroadcastQuery.Proofs.ChainShape
import BroadcastQuery.Proofs.Parts
import BroadcastQuery.Proofs.Precedence
import BroadcastQuery.Proofs.Rechecking
import BroadcastQuery.Proofs.Wire.Faithful
import BroadcastQuery.Proofs.Typing
import BroadcastQuery.Proofs.Spread
import BroadcastQuery.Proofs.Rereading
import BroadcastQuery.Proofs.Rebuilding
import BroadcastQuery.Proofs.Interleaving
import BroadcastQuery.Proofs.Dispatching
import BroadcastQuery.Proofs.Form
import BroadcastQuery.Proofs.Dates
import BroadcastQuery.Proofs.QueryString
import BroadcastQuery.Proofs.Embedding
import BroadcastQuery.Proofs.Composition
import BroadcastQuery.Proofs.Grammar.Completion
import BroadcastQuery.Proofs.Grammar.Blame
import BroadcastQuery.Proofs.SyntaxErrors
import BroadcastQuery.Proofs.Moving
import BroadcastQuery.Proofs.Leaves
import BroadcastQuery.Proofs.Channels
import BroadcastQuery.Proofs.FurtherNames
import BroadcastQuery.Proofs.Progress
import BroadcastQuery.Proofs.TagLists
import BroadcastQuery.Proofs.Respacing
import BroadcastQuery.Proofs.Resumption
import BroadcastQuery.Proofs.Selection
import BroadcastQuery.Proofs.Session
import BroadcastQuery.Proofs.Respelling
