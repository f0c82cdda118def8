import SpendingLimits.Amount.Arithmetic
import SpendingLimits.Amount.Basic
import SpendingLimits.Amount.Exact
import SpendingLimits.Amount.Printer
import SpendingLimits.Amount.Reader
import SpendingLimits.Binary64.Basic
import SpendingLimits.Binary64.Decimal
import SpendingLimits.Codec.Amount
import SpendingLimits.Codec.Document
import SpendingLimits.Codec.Profile
import SpendingLimits.Codec.Rule
import SpendingLimits.Codec.Transaction
import SpendingLimits.Codec.Verdict
import SpendingLimits.CommandLine.Arguments
import SpendingLimits.CommandLine.Environment
import SpendingLimits.CommandLine.Folder
import SpendingLimits.CommandLine.Help
import SpendingLimits.CommandLine.Program
import SpendingLimits.CommandLine.VariableFile
import SpendingLimits.Fault
import SpendingLimits.Identifier
import SpendingLimits.Json.Basic
import SpendingLimits.Json.Number
import SpendingLimits.Json.Printer
import SpendingLimits.Json.Reader
import SpendingLimits.Json.Record
import SpendingLimits.Ledger
import SpendingLimits.Main
import SpendingLimits.Profile
import SpendingLimits.Proofs.Amount.Cap
import SpendingLimits.Proofs.Amount.Correctness
import SpendingLimits.Proofs.Amount.Denoted
import SpendingLimits.Proofs.Amount.Minus
import SpendingLimits.Proofs.Amount.Obtained
import SpendingLimits.Proofs.Amount.Reading
import SpendingLimits.Proofs.Amount.Rest
import SpendingLimits.Proofs.Amount.Rounded
import SpendingLimits.Proofs.Amount.Rounding
import SpendingLimits.Proofs.Amount.Sum
import SpendingLimits.Proofs.Amount.Text
import SpendingLimits.Proofs.Amount.Value
import SpendingLimits.Proofs.Binary64
import SpendingLimits.Proofs.Codec.Amounts
import SpendingLimits.Proofs.Codec.Document
import SpendingLimits.Proofs.Codec.Ledger
import SpendingLimits.Proofs.Codec.Parts
import SpendingLimits.Proofs.CommandLine.Folder
import SpendingLimits.Proofs.CommandLine.Outcome
import SpendingLimits.Proofs.CommandLine.Reads
import SpendingLimits.Proofs.CommandLine.Stage
import SpendingLimits.Proofs.Json.Ensures
import SpendingLimits.Proofs.Json.Grammar
import SpendingLimits.Proofs.Json.Number
import SpendingLimits.Proofs.Json.Record
import SpendingLimits.Proofs.Json.Text
import SpendingLimits.Proofs.Ledger.Contents
import SpendingLimits.Proofs.Ledger.Loading
import SpendingLimits.Proofs.Ledger.Nesting
import SpendingLimits.Proofs.Ledger.Order
import SpendingLimits.Proofs.Ledger.Recording
import SpendingLimits.Proofs.Ledger.Total
import SpendingLimits.Proofs.Ledger.Value
import SpendingLimits.Proofs.Outcome
import SpendingLimits.Proofs.RuleSet.Acceptance
import SpendingLimits.Proofs.RuleSet.FirstFault
import SpendingLimits.Proofs.RuleSet.Loading
import SpendingLimits.Proofs.Rulebook.Choice
import SpendingLimits.Proofs.Rulebook.Position
import SpendingLimits.Proofs.Rulebook.Resolution
import SpendingLimits.Proofs.Service.Answer
import SpendingLimits.Proofs.Service.Composition
import SpendingLimits.Proofs.Service.Isolation
import SpendingLimits.Proofs.Service.Loaded
import SpendingLimits.Proofs.Service.Promotion
import SpendingLimits.Proofs.Service.Spending
import SpendingLimits.Proofs.Service.Value
import SpendingLimits.Proofs.Store.History
import SpendingLimits.Proofs.Store.Integrity
import SpendingLimits.Proofs.Text.Capital
import SpendingLimits.Proofs.Text.Digits
import SpendingLimits.Proofs.Time.Calendar
import SpendingLimits.Proofs.Time.Passing
import SpendingLimits.Proofs.Time.Text
import SpendingLimits.Proofs.Transaction
import SpendingLimits.Proofs.Uuid
import SpendingLimits.Proofs.Verdict.Denial
import SpendingLimits.Proofs.Verdict.Enforcement
import SpendingLimits.Proofs.Verdict.Monotone
import SpendingLimits.Proofs.Verdict.Range
import SpendingLimits.Proofs.Verdict.Resubmission
import SpendingLimits.Proofs.Verdict.Specification
import SpendingLimits.Proofs.Verdict.Summary
import SpendingLimits.Proofs.Verdict.Value
import SpendingLimits.Rounding
import SpendingLimits.RuleSet
import SpendingLimits.Rulebook
import SpendingLimits.Service
import SpendingLimits.Store
import SpendingLimits.Text.Alphanumeric
import SpendingLimits.Text.Blank
import SpendingLimits.Text.Capital
import SpendingLimits.Text.Digits
import SpendingLimits.Time.Calendar
import SpendingLimits.Time.Instant
import SpendingLimits.Time.Printer
import SpendingLimits.Time.Reader
import SpendingLimits.Transaction
import SpendingLimits.Usage
import SpendingLimits.Uuid
import SpendingLimits.Verdict
