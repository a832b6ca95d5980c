import TenPuzzle.Answer
import TenPuzzle.Bot.Basic
import TenPuzzle.Bot.Command
import TenPuzzle.Bot.Reply
import TenPuzzle.Candidate
import TenPuzzle.Expression.Basic
import TenPuzzle.Expression.Evaluation
import TenPuzzle.Expression.Machine
import TenPuzzle.Game.Basic
import TenPuzzle.Game.Fault
import TenPuzzle.Game.Report
import TenPuzzle.Game.Session
import TenPuzzle.Game.Stored
import TenPuzzle.Json.Basic
import TenPuzzle.Json.Reader
import TenPuzzle.Json.Writer
import TenPuzzle.Main
import TenPuzzle.Message.Chunk
import TenPuzzle.Number.Binary64
import TenPuzzle.Number.Digits
import TenPuzzle.Number.Fixed
import TenPuzzle.Number.Quantity
import TenPuzzle.Number.Reading
import TenPuzzle.Number.Shortest
import TenPuzzle.Proofs.Answer.Digits
import TenPuzzle.Proofs.Answer.Exactness
import TenPuzzle.Proofs.Answer.Judgement
import TenPuzzle.Proofs.Answer.Legality
import TenPuzzle.Proofs.Answer.Normalization
import TenPuzzle.Proofs.Answer.Range
import TenPuzzle.Proofs.Answer.Rational
import TenPuzzle.Proofs.Bot.Delivery
import TenPuzzle.Proofs.Bot.Display
import TenPuzzle.Proofs.Bot.Length
import TenPuzzle.Proofs.Bot.Limit
import TenPuzzle.Proofs.Bot.Posting
import TenPuzzle.Proofs.Bot.Refusal
import TenPuzzle.Proofs.Bot.Safety
import TenPuzzle.Proofs.Bot.Wording
import TenPuzzle.Proofs.Expression.Acceptance
import TenPuzzle.Proofs.Expression.Evaluation
import TenPuzzle.Proofs.Expression.Grammar
import TenPuzzle.Proofs.Expression.Location
import TenPuzzle.Proofs.Expression.Malformed
import TenPuzzle.Proofs.Expression.Meaning
import TenPuzzle.Proofs.Expression.Moves
import TenPuzzle.Proofs.Expression.Nesting
import TenPuzzle.Proofs.Expression.Prefix
import TenPuzzle.Proofs.Game.Action
import TenPuzzle.Proofs.Game.Bookkeeping
import TenPuzzle.Proofs.Game.Clock
import TenPuzzle.Proofs.Game.Effect
import TenPuzzle.Proofs.Game.Failure
import TenPuzzle.Proofs.Game.Health
import TenPuzzle.Proofs.Game.Isolation
import TenPuzzle.Proofs.Game.Leaderboard
import TenPuzzle.Proofs.Game.Pool
import TenPuzzle.Proofs.Game.Request
import TenPuzzle.Proofs.Game.Run
import TenPuzzle.Proofs.Game.Safety
import TenPuzzle.Proofs.Game.Standing
import TenPuzzle.Proofs.Game.StoredText
import TenPuzzle.Proofs.Game.Submission
import TenPuzzle.Proofs.Game.Supply
import TenPuzzle.Proofs.Game.Turn
import TenPuzzle.Proofs.Game.Winning
import TenPuzzle.Proofs.Json.Numeral
import TenPuzzle.Proofs.Json.Quoted
import TenPuzzle.Proofs.Json.Readable
import TenPuzzle.Proofs.Json.RoundTrip
import TenPuzzle.Proofs.Message.Chunk
import TenPuzzle.Proofs.Message.Fewest
import TenPuzzle.Proofs.Message.Limit
import TenPuzzle.Proofs.Number.Arithmetic
import TenPuzzle.Proofs.Number.Bits
import TenPuzzle.Proofs.Number.Coarse
import TenPuzzle.Proofs.Number.Double
import TenPuzzle.Proofs.Number.Fixed
import TenPuzzle.Proofs.Number.Layout
import TenPuzzle.Proofs.Number.Mantissa
import TenPuzzle.Proofs.Number.Nearest
import TenPuzzle.Proofs.Number.Order
import TenPuzzle.Proofs.Number.Reading
import TenPuzzle.Proofs.Number.Unique
import TenPuzzle.Proofs.Number.Whole
import TenPuzzle.Proofs.Settings.Loading
import TenPuzzle.Proofs.Solver.Bracketing
import TenPuzzle.Proofs.Solver.Candidates
import TenPuzzle.Proofs.Solver.Completeness
import TenPuzzle.Proofs.Solver.Playable
import TenPuzzle.Proofs.Store.Entries
import TenPuzzle.Proofs.Store.Ranking
import TenPuzzle.Proofs.Sweep.Exact
import TenPuzzle.Proofs.Sweep.Order
import TenPuzzle.Proofs.Sweep.Size
import TenPuzzle.Proofs.Text.Integer
import TenPuzzle.Proofs.Text.Order
import TenPuzzle.Settings.Basic
import TenPuzzle.Settings.Directory
import TenPuzzle.Settings.Reading
import TenPuzzle.Solver
import TenPuzzle.Startup
import TenPuzzle.Store
import TenPuzzle.Sweep.Basic
import TenPuzzle.Sweep.Listing
import TenPuzzle.Sweep.Transcript
import TenPuzzle.Text.Base64
import TenPuzzle.Text.Blank
import TenPuzzle.Text.Decimal
import TenPuzzle.Text.DecimalDigit
import TenPuzzle.Text.Hexadecimal
import TenPuzzle.Text.Integer
import TenPuzzle.Text.LetterCase
import TenPuzzle.Text.Numeral
import TenPuzzle.Text.Order
import TenPuzzle.Text.Printable
import TenPuzzle.Text.Quoted
import TenPuzzle.Yaml.Block
import TenPuzzle.Yaml.Fault
import TenPuzzle.Yaml.Form
import TenPuzzle.Yaml.Kind
import TenPuzzle.Yaml.Lexer
import TenPuzzle.Yaml.Line
import TenPuzzle.Yaml.Members
import TenPuzzle.Yaml.Merge
import TenPuzzle.Yaml.Moment
import TenPuzzle.Yaml.Node
import TenPuzzle.Yaml.Plain
import TenPuzzle.Yaml.Property
import TenPuzzle.Yaml.Quoted
import TenPuzzle.Yaml.Reading
import TenPuzzle.Yaml.Scalar
import TenPuzzle.Yaml.Token
import TenPuzzle.Yaml.Value
