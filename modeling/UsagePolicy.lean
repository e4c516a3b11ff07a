import UsagePolicy.Text.Blank
import UsagePolicy.Text.DecimalDigit
import UsagePolicy.Text.Hex
import UsagePolicy.Text.Split
import UsagePolicy.Number.Shortest
import UsagePolicy.Json.Printer
import UsagePolicy.Json.Reader
import UsagePolicy.Calendar.Reading
import UsagePolicy.Identifier
import UsagePolicy.Policy.UsageCount
import UsagePolicy.Policy.Documents
import UsagePolicy.Policy.Editing
import UsagePolicy.Schema.Models
import UsagePolicy.Store.Program
import UsagePolicy.Service.Call
import UsagePolicy.Http.Server
import UsagePolicy.Run
import UsagePolicy.Proofs.Number.Digits
import UsagePolicy.Proofs.Text.HexDigits
import UsagePolicy.Proofs.Text.Items
import UsagePolicy.Proofs.Identifier.RandomBits
import UsagePolicy.Proofs.Json.Scalars
import UsagePolicy.Proofs.Json.RoundTrip
import UsagePolicy.Proofs.Calendar.Order
import UsagePolicy.Proofs.Calendar.DayNumbers
import UsagePolicy.Proofs.Calendar.TextOrder
import UsagePolicy.Proofs.Calendar.ReadBack
import UsagePolicy.Proofs.Calendar.IssueTexts
import UsagePolicy.Proofs.Schema.Acceptance
import UsagePolicy.Proofs.Policy.AgreementTexts
import UsagePolicy.Proofs.Policy.Vocabulary
import UsagePolicy.Proofs.Program.Runs
import UsagePolicy.Proofs.Program.Failures
import UsagePolicy.Proofs.Program.Interference
import UsagePolicy.Proofs.Store.Completion
import UsagePolicy.Proofs.Store.PolicyIds
import UsagePolicy.Proofs.Store.Operations
import UsagePolicy.Proofs.Datasets.Conversion
import UsagePolicy.Proofs.Datasets.Ingestion
import UsagePolicy.Proofs.Datasets.Lookup
import UsagePolicy.Proofs.Datasets.WriteBack
import UsagePolicy.Proofs.Datasets.Agreement
import UsagePolicy.Proofs.Service.Tasks
import UsagePolicy.Proofs.Service.Effects
import UsagePolicy.Proofs.Service.Replies
import UsagePolicy.Proofs.Policies.Saving
import UsagePolicy.Proofs.Policies.ReadBack
import UsagePolicy.Proofs.Policies.Listing
import UsagePolicy.Proofs.Policies.History
import UsagePolicy.Proofs.Policies.Consistency
import UsagePolicy.Proofs.Policy.ActiveParameters
import UsagePolicy.Proofs.Policy.Drafts
import UsagePolicy.Proofs.Policies.Generation
import UsagePolicy.Proofs.Policies.Frame
import UsagePolicy.Proofs.Policies.Ledger
import UsagePolicy.Proofs.Policies.Accounts
import UsagePolicy.Proofs.Policies.Order
import UsagePolicy.Proofs.Service.Refusals
import UsagePolicy.Proofs.Datasets.Uniqueness
import UsagePolicy.Proofs.Service.Calm
import UsagePolicy.Proofs.Policies.Routes
import UsagePolicy.Proofs.Number.Magnitude
import UsagePolicy.Proofs.Json.Limits
import UsagePolicy.Proofs.Policy.CountReading
import UsagePolicy.Proofs.Policies.Submissions
import UsagePolicy.Proofs.Policies.UsageLimit
import UsagePolicy.Proofs.Policies.Rendering
import UsagePolicy.Proofs.Policies.Previews
import UsagePolicy.Proofs.Datasets.FoundAsListed
import UsagePolicy.Proofs.Calendar.ReadOffsets
import UsagePolicy.Proofs.Schema.Normalization
import UsagePolicy.Proofs.Http.Bodies
import UsagePolicy.Proofs.Http.Origins
import UsagePolicy.Proofs.Service.Access
