import LedgerRules.Account.Coverage
import LedgerRules.Calendar.Date
import LedgerRules.Calendar.DateReading
import LedgerRules.Calendar.Timestamp
import LedgerRules.Command
import LedgerRules.Json.Access
import LedgerRules.Json.Basic
import LedgerRules.Json.Printer
import LedgerRules.Json.Reader
import LedgerRules.Number.Decimal
import LedgerRules.Number.Double
import LedgerRules.Number.Numeral
import LedgerRules.Number.Rounding
import LedgerRules.Number.Shortest
import LedgerRules.Pattern.Escape
import LedgerRules.Pattern.Fault
import LedgerRules.Pattern.Matcher
import LedgerRules.Pattern.Parser
import LedgerRules.Pattern.Scanner
import LedgerRules.Pattern.Tree
import LedgerRules.Payload.Actions
import LedgerRules.Payload.Checked
import LedgerRules.Payload.Conditions
import LedgerRules.Payload.Problem
import LedgerRules.Payload.RuleRequest
import LedgerRules.Payload.Scalar
import LedgerRules.Payload.TransactionRequest
import LedgerRules.Proofs.Account.Coverage
import LedgerRules.Proofs.Account.Drafting
import LedgerRules.Proofs.Account.Requesting
import LedgerRules.Proofs.Number.Digits
import LedgerRules.Proofs.Number.Instants
import LedgerRules.Proofs.Number.Nearest
import LedgerRules.Proofs.Number.Order
import LedgerRules.Proofs.Number.Places
import LedgerRules.Proofs.Number.Reading
import LedgerRules.Proofs.Number.Whole
import LedgerRules.Proofs.Outcomes
import LedgerRules.Proofs.Payload.Accepted
import LedgerRules.Proofs.Payload.Accepting
import LedgerRules.Proofs.Payload.Rearranged
import LedgerRules.Proofs.Payload.Stated
import LedgerRules.Proofs.Payload.Written
import LedgerRules.Proofs.Resolution.Again
import LedgerRules.Proofs.Resolution.Answering
import LedgerRules.Proofs.Resolution.Crediting
import LedgerRules.Proofs.Resolution.Detecting
import LedgerRules.Proofs.Resolution.Folding
import LedgerRules.Proofs.Resolution.Influence
import LedgerRules.Proofs.Resolution.LaterRounds
import LedgerRules.Proofs.Resolution.Linking
import LedgerRules.Proofs.Resolution.Reordering
import LedgerRules.Proofs.Resolution.Repeating
import LedgerRules.Proofs.Resolution.Reporting
import LedgerRules.Proofs.Resolution.Rounds
import LedgerRules.Proofs.Resolution.Routing
import LedgerRules.Proofs.Resolution.Settlement
import LedgerRules.Proofs.Resolution.Transfers
import LedgerRules.Proofs.Resolution.Untouched
import LedgerRules.Proofs.Rule.Asking
import LedgerRules.Proofs.Rule.Breaking
import LedgerRules.Proofs.Rule.Compiled
import LedgerRules.Proofs.Rule.ExactOrder
import LedgerRules.Proofs.Rule.Gathering
import LedgerRules.Proofs.Rule.Matching
import LedgerRules.Proofs.Rule.Mentioning
import LedgerRules.Proofs.Rule.Ordering
import LedgerRules.Proofs.Rule.Overflowing
import LedgerRules.Proofs.Rule.Reading
import LedgerRules.Proofs.Rule.WholeAmounts
import LedgerRules.Proofs.Service.Booking
import LedgerRules.Proofs.Service.Deleting
import LedgerRules.Proofs.Service.Duplicates
import LedgerRules.Proofs.Service.Evaluating
import LedgerRules.Proofs.Service.Failing
import LedgerRules.Proofs.Service.Generating
import LedgerRules.Proofs.Service.Handling
import LedgerRules.Proofs.Service.Interleaving
import LedgerRules.Proofs.Service.Pairing
import LedgerRules.Proofs.Service.Placement
import LedgerRules.Proofs.Service.Preview
import LedgerRules.Proofs.Service.ReadingBack
import LedgerRules.Proofs.Service.Relinking
import LedgerRules.Proofs.Service.Rules
import LedgerRules.Proofs.Service.Showing
import LedgerRules.Proofs.Service.Tidying
import LedgerRules.Proofs.Service.Untouched
import LedgerRules.Proofs.Store.Batches
import LedgerRules.Proofs.Store.Booking
import LedgerRules.Proofs.Store.Deleting
import LedgerRules.Proofs.Store.Duplicates
import LedgerRules.Proofs.Store.Insertions
import LedgerRules.Proofs.Store.Numbering
import LedgerRules.Proofs.Store.Paging
import LedgerRules.Proofs.Store.Pairing
import LedgerRules.Proofs.Store.PlainRules
import LedgerRules.Proofs.Store.Rebooking
import LedgerRules.Proofs.Store.Recompiling
import LedgerRules.Proofs.Store.Relinking
import LedgerRules.Proofs.Store.RuleCalls
import LedgerRules.Proofs.Store.RuleChanges
import LedgerRules.Proofs.Store.RuleListing
import LedgerRules.Proofs.Store.Rules
import LedgerRules.Proofs.Text.Folding
import LedgerRules.Resolution.Basic
import LedgerRules.Resolution.Engine
import LedgerRules.Resolution.Fold
import LedgerRules.Resolution.Identifier
import LedgerRules.Resolution.Transfer
import LedgerRules.Rule.Action
import LedgerRules.Rule.Applied
import LedgerRules.Rule.Candidate
import LedgerRules.Rule.Condition
import LedgerRules.Rule.Kind
import LedgerRules.Rule.Order
import LedgerRules.Rule.Selection
import LedgerRules.Rule.Stored
import LedgerRules.Service.Message
import LedgerRules.Service.Router
import LedgerRules.Service.Rules
import LedgerRules.Service.Transactions
import LedgerRules.Settings
import LedgerRules.Store.Accounts
import LedgerRules.Store.Basic
import LedgerRules.Store.Fault
import LedgerRules.Store.Row
import LedgerRules.Store.RuleSession
import LedgerRules.Store.Snapshot
import LedgerRules.Store.Transactions
import LedgerRules.Text.Blank
import LedgerRules.Text.CaseFold
import LedgerRules.Text.CaseMap
import LedgerRules.Text.CaseRun
import LedgerRules.Text.CharacterName
import LedgerRules.Text.CodeRange
import LedgerRules.Text.Letter
import LedgerRules.Text.NameTable
import LedgerRules.Text.Printable
import LedgerRules.Main
