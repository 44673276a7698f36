import DiceBot.Text.Basic
import DiceBot.Text.Blank
import DiceBot.Text.Decimal
import DiceBot.Text.Printable
import DiceBot.Text.Quoted
import DiceBot.Formula.Numeral
import DiceBot.Formula.Term
import DiceBot.Formula.Scanner
import DiceBot.Formula.Pieces
import DiceBot.Formula.Parse
import DiceBot.Journal
import DiceBot.Dice.Source
import DiceBot.Dice.Play
import DiceBot.Dice.Kept
import DiceBot.Report
import DiceBot.Responder
import DiceBot.Chat
import DiceBot.Settings
import DiceBot.Fault
import DiceBot.Json.Binary64
import DiceBot.Json.Value
import DiceBot.Json.Number
import DiceBot.Json.Token
import DiceBot.Json.Reader
import DiceBot.Json.Writer
import DiceBot.Intake.Issue
import DiceBot.Intake.Checked
import DiceBot.Intake.Integer
import DiceBot.Intake.Scalar
import DiceBot.Intake.Record
import DiceBot.Http.Base64
import DiceBot.Http.Header
import DiceBot.Http.Response
import DiceBot.Http.Request
import DiceBot.Http.Session
import DiceBot.Proofs.Text.Joined
import DiceBot.Proofs.Formula.Numeral
import DiceBot.Proofs.Formula.Scans
import DiceBot.Proofs.Formula.Spelling
import DiceBot.Proofs.Formula.Pieces
import DiceBot.Proofs.Intake.Fields
import DiceBot.Proofs.Intake.Terms
import DiceBot.Proofs.Intake.Projection
import DiceBot.Proofs.Formula.RoundTrip
import DiceBot.Proofs.Formula.Grammar
import DiceBot.Proofs.Formula.Faults
import DiceBot.Proofs.Formula.Mending
import DiceBot.Proofs.Formula.Composed
import DiceBot.Proofs.Formula.Viable
import DiceBot.Proofs.Formula.Steps
import DiceBot.Proofs.Formula.Positions
import DiceBot.Proofs.Dice.Throws
import DiceBot.Proofs.Report.Rolling
import DiceBot.Proofs.Dice.Extremes
import DiceBot.Proofs.Report.Raises
import DiceBot.Proofs.Report.Legible
import DiceBot.Proofs.Report.Replay
import DiceBot.Proofs.Report.Totals
import DiceBot.Proofs.Responder.Answers
import DiceBot.Proofs.Responder.Blanks
import DiceBot.Proofs.Responder.Composed
import DiceBot.Proofs.Dice.Asks
import DiceBot.Proofs.Dice.Runs
import DiceBot.Proofs.Dice.Interrupted
import DiceBot.Proofs.Chat.Turns
import DiceBot.Proofs.Chat.Posts
import DiceBot.Proofs.Chat.Interrupted
import DiceBot.Proofs.Chat.Outlets
import DiceBot.Proofs.Responder.Audit
import DiceBot.Proofs.Settings.Accepted
import DiceBot.Proofs.Settings.Readings
import DiceBot.Proofs.Json.Written
import DiceBot.Proofs.Http.Requests
import DiceBot.Proofs.Http.Serving
import DiceBot.Proofs.Http.OneBot
import DiceBot.Proofs.Http.Lifetime
import DiceBot.Proofs.Http.Interrupted
import DiceBot.Proofs.Http.Contents
import DiceBot.Proofs.Http.Statuses
import DiceBot.Proofs.Http.Workload
import DiceBot.Proofs.Http.Counted
