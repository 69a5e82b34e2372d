import FieldChecks.Checks.Custom
import FieldChecks.Config.Json
import FieldChecks.Derive.Code
import FieldChecks.Json.Document
import FieldChecks.Report
import FieldChecks.Validator
import FieldChecks.Proofs.CheckList.Keeping
import FieldChecks.Proofs.Text.Blank
import FieldChecks.Proofs.Text.Split
import FieldChecks.Proofs.CheckList.Grammar
import FieldChecks.Proofs.Validation.Stations
import FieldChecks.Proofs.Validation.History
import FieldChecks.Proofs.Value.Alike
import FieldChecks.Proofs.CheckList.Provenance
import FieldChecks.Proofs.Checks.Standard
import FieldChecks.Proofs.Validation.Transparency
import FieldChecks.Proofs.Validation.Concealment
import FieldChecks.Proofs.Validation.Frame
import FieldChecks.Proofs.Validation.Relaxation
import FieldChecks.Proofs.Registry.Events
import FieldChecks.Proofs.Validation.Attempts
import FieldChecks.Proofs.Registry.Runs
import FieldChecks.Proofs.Text.Concatenation
import FieldChecks.Proofs.CheckList.Concatenation
import FieldChecks.Proofs.CheckList.Calling
import FieldChecks.Proofs.CheckList.Vacancy
import FieldChecks.Proofs.Derive.Options
import FieldChecks.Proofs.Derive.Path
import FieldChecks.Proofs.Derive.Tags
import FieldChecks.Proofs.Validation.Vacancy
import FieldChecks.Proofs.Derive.Descriptor
import FieldChecks.Proofs.Text.Digits
import FieldChecks.Proofs.Text.Bytes
import FieldChecks.Proofs.Json.StringLiteral
import FieldChecks.Proofs.Json.Grammar
import FieldChecks.Proofs.Json.Skip
import FieldChecks.Proofs.Json.Reader
import FieldChecks.Proofs.Json.Record
import FieldChecks.Proofs.Config.Json
import FieldChecks.Proofs.Report
import FieldChecks.Proofs.Derive.StringLiteral
import FieldChecks.Proofs.Derive.Code
import FieldChecks.Proofs.Pattern.Matching
import FieldChecks.Proofs.Pattern.Anchored
import FieldChecks.Proofs.Checks.Alphabet
import FieldChecks.Proofs.Checksum.Positional
import FieldChecks.Proofs.Checksum.Luhn
import FieldChecks.Proofs.Checksum.LuhnDetection
import FieldChecks.Proofs.Checksum.IsbnVerdict
import FieldChecks.Proofs.Checksum.Isbn
import FieldChecks.Proofs.Checksum.IsbnDetection
import FieldChecks.Proofs.Checksum.Npi
import FieldChecks.Proofs.Number.Integer
import FieldChecks.Proofs.Checks.Identifier
import FieldChecks.Proofs.Checks.Size
import FieldChecks.Proofs.Checks.Comparison
import FieldChecks.Proofs.Checks.IntegerViews
import FieldChecks.Proofs.Value.Layers
import FieldChecks.Proofs.Value.Leaves
import FieldChecks.Proofs.Validation.Required
import FieldChecks.Proofs.CheckList.Canonical
import FieldChecks.Proofs.Derive.TagReading
import FieldChecks.Proofs.Net.Mac
import FieldChecks.Proofs.Text.Slice
import FieldChecks.Proofs.Checks.MailAddress
import FieldChecks.Proofs.Pattern.Language
import FieldChecks.Proofs.Checks.Email
import FieldChecks.Proofs.Checks.AsciiText
import FieldChecks.Proofs.Checks.Domain
import FieldChecks.Proofs.Pattern.Numeral
import FieldChecks.Proofs.Checks.NumberRange
import FieldChecks.Proofs.Checks.Base64
import FieldChecks.Proofs.Checks.Uuid
import FieldChecks.Proofs.Pattern.Alternatives
import FieldChecks.Proofs.Checks.Choice
