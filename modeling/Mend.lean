import Mend.Text.Quoted
import Mend.Text.Utf8
import Mend.Number.Real
import Mend.Number.Numeral
import Mend.Json.Reader
import Mend.Json.Writer
import Mend.Json.Access
import Mend.Plan.Selection
import Mend.Plan.Summary
import Mend.Fix.Document
import Mend.ErrorKind
import Mend.Settings.Environment
import Mend.Settings.Document
import Mend.Scanner.Fetch
import Mend.Plan.File
import Mend.Scan.Local
import Mend.Model.DeepScan
import Mend.Fix.Run
import Mend.Model.Drafter
import Mend.Main
import Mend.Proofs.Project.Writing
import Mend.Proofs.Act
import Mend.Proofs.Fix.Backup
import Mend.Proofs.Fix.Attempt
import Mend.Proofs.Fix.File
import Mend.Proofs.Fix.Mirror
import Mend.Proofs.Fix.Journal
import Mend.Proofs.Fix.Atomic
import Mend.Proofs.Fix.Run
import Mend.Proofs.Fix.Views
import Mend.Proofs.Fix.Certification
import Mend.Proofs.Text.Utf8
import Mend.Proofs.Plan.Selection
import Mend.Proofs.Fix.Containment
import Mend.Proofs.Text.Trim
import Mend.Proofs.Drafting.Blocks
import Mend.Proofs.Drafting.Extraction
import Mend.Proofs.Drafting.Answer
import Mend.Proofs.Model.Drafter
import Mend.Proofs.Fix.Verbatim
import Mend.Proofs.Number.Numeral
import Mend.Proofs.Json.Atoms
import Mend.Proofs.Json.Documents
import Mend.Proofs.Json.Written
import Mend.Proofs.Issue.Documents
import Mend.Proofs.Plan.Documents
import Mend.Proofs.Plan.Agreement
import Mend.Proofs.Json.Records
import Mend.Proofs.Fix.Agreement
import Mend.Proofs.Plan.File
import Mend.Proofs.Text.Joined
import Mend.Proofs.Scanner.Findings
import Mend.Proofs.Scanner.Replies
import Mend.Proofs.Scanner.Honest
import Mend.Proofs.Scanner.Paging
import Mend.Proofs.Scanner.Catalogue
import Mend.Proofs.Scanner.Window
import Mend.Proofs.Scanner.Severest
import Mend.Proofs.Fix.History
import Mend.Proofs.Fix.Stopping
import Mend.Proofs.Fix.Accounting
import Mend.Proofs.Json.Reading
import Mend.Proofs.Scanner.Legible
import Mend.Proofs.Scanner.Journal
import Mend.Proofs.Scanner.Containment
import Mend.Proofs.Scan.Findings
import Mend.Proofs.Scan.Containment
import Mend.Proofs.Scan.Keys
import Mend.Proofs.Scan.Files
import Mend.Proofs.Scan.Numbering
import Mend.Proofs.Scan.Identity
import Mend.Proofs.Scan.Independence
import Mend.Proofs.Scanner.Exchanges
import Mend.Proofs.Scanner.Preflight
import Mend.Proofs.Scanner.Searches
import Mend.Proofs.Scanner.Conversation
import Mend.Proofs.Fix.Feedback
import Mend.Proofs.Scan.Ignored
import Mend.Proofs.Stable
import Mend.Proofs.Scan.Capping
import Mend.Proofs.Occurrences
import Mend.Proofs.Issue.Tallies
import Mend.Proofs.Plan.Grouping
import Mend.Proofs.Json.Sets
import Mend.Proofs.Plan.Requests
import Mend.Proofs.Plan.Legible
import Mend.Proofs.Plan.Loading
import Mend.Proofs.Settings.Environment
import Mend.Proofs.Settings.Overriding
import Mend.Proofs.Settings.Naming
import Mend.Proofs.Fix.Consumption
import Mend.Proofs.Project.Outline
import Mend.Proofs.Build.Commands
import Mend.Proofs.Fix.Refusal
import Mend.Proofs.Fix.Uncompiled
import Mend.Proofs.Scan.Walk
import Mend.Proofs.Text.Kept
import Mend.Proofs.Fix.Edits
import Mend.Proofs.Text.Lines
import Mend.Proofs.Scan.Pattern
import Mend.Proofs.Scan.Places
import Mend.Proofs.Scan.Asking
import Mend.Proofs.Scan.Credential
import Mend.Proofs.Issue.Efforts
import Mend.Proofs.Settings.Selecting
