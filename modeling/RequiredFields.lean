import RequiredFields.Condition.Json
import RequiredFields.Directive.Printer
import RequiredFields.Main
import RequiredFields.Proofs.Validator.Written
import RequiredFields.Session
import RequiredFields.Settings.File
import RequiredFields.Proofs.Record.Edits
import RequiredFields.Proofs.Record.Lookup
import RequiredFields.Proofs.Validator.Dependence
import RequiredFields.Proofs.Validator.Arrangement
import RequiredFields.Proofs.Validator.ValueEdit
import RequiredFields.Proofs.Validator.Insertion
import RequiredFields.Proofs.Directive.Vague
import RequiredFields.Proofs.Json.Layout
import RequiredFields.Proofs.Json.Spelling
import RequiredFields.Proofs.Json.Quotation
import RequiredFields.Proofs.Json.Reading
import RequiredFields.Proofs.Validator.Doubt
import RequiredFields.Proofs.Record.Levels
import RequiredFields.Proofs.Record.RoundTrip
import RequiredFields.Proofs.Configuration.Environment
import RequiredFields.Proofs.Configuration.Override
import RequiredFields.Proofs.Number.Characters
import RequiredFields.Proofs.Configuration.Printed
import RequiredFields.Proofs.Command.Steps
import RequiredFields.Proofs.Configuration.Usable
import RequiredFields.Proofs.Directive.Depth
import RequiredFields.Proofs.Validator.Repair
import RequiredFields.Proofs.Command.Outcome
import RequiredFields.Proofs.Directive.Split
import RequiredFields.Proofs.Number.Nearest
import RequiredFields.Proofs.Number.Numeral
import RequiredFields.Proofs.Comparison.Decimals
import RequiredFields.Proofs.Comparison.Thresholds
import RequiredFields.Proofs.Comparison.Opposites
import RequiredFields.Proofs.Directive.Pieces
import RequiredFields.Proofs.Validator.Trace
import RequiredFields.Proofs.Configuration.Accepted
import RequiredFields.Proofs.Record.Positions
import RequiredFields.Proofs.Directive.Tokens
import RequiredFields.Proofs.Json.Grammar
import RequiredFields.Proofs.Json.Taking
import RequiredFields.Proofs.Json.Skipping
import RequiredFields.Proofs.Condition.Spellings
import RequiredFields.Proofs.Text.Encoding
import RequiredFields.Proofs.Text.Slices
import RequiredFields.Proofs.Directive.Offsets
