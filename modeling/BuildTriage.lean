import BuildTriage.Main
import BuildTriage.Proofs.Log.Framing
import BuildTriage.Proofs.Log.Sources
import BuildTriage.Proofs.Log.History
import BuildTriage.Proofs.Log.Literals
import BuildTriage.Proofs.Log.Tail
import BuildTriage.Proofs.Log.Interruption
import BuildTriage.Proofs.Triage.Correction
import BuildTriage.Proofs.Log.Occurrence
import BuildTriage.Proofs.Triage.Catalogue
import BuildTriage.Proofs.Triage.Evidence
import BuildTriage.Proofs.Triage.LineSets
import BuildTriage.Proofs.Triage.AlignmentGuard
import BuildTriage.Proofs.Triage.SummaryCoherence
import BuildTriage.Proofs.Triage.BlankLogs
import BuildTriage.Proofs.Json.Grammar
import BuildTriage.Proofs.Calendar.TimeText
import BuildTriage.Proofs.Json.Records
import BuildTriage.Proofs.Triage.JsonRoundTrip
import BuildTriage.Proofs.Cli.Categorize
import BuildTriage.Proofs.Regex.Pass
import BuildTriage.Proofs.Regex.Splice
import BuildTriage.Proofs.Regex.SpliceClass
import BuildTriage.Proofs.Regex.Reading
import BuildTriage.Proofs.Regex.WholeLine
import BuildTriage.Proofs.Regex.Stretches
import BuildTriage.Proofs.Log.Captures
import BuildTriage.Proofs.Log.Probe
import BuildTriage.Proofs.Log.Acceptance
import BuildTriage.Proofs.Log.TailText
import BuildTriage.Proofs.Regex.Glyphs
import BuildTriage.Proofs.Log.Gap
import BuildTriage.Proofs.Triage.GapSignatures
import BuildTriage.Proofs.Log.Registry
import BuildTriage.Proofs.Log.Batch
import BuildTriage.Proofs.Log.Pending
import BuildTriage.Proofs.Triage.Message
import BuildTriage.Proofs.Text.LossySize
import BuildTriage.Proofs.Log.Progress
import BuildTriage.Proofs.Text.Quoting
import BuildTriage.Proofs.Triage.Readability
import BuildTriage.Proofs.Calendar.DayNumber
import BuildTriage.Proofs.Calendar.Instants
import BuildTriage.Proofs.Triage.SubmitDate
import BuildTriage.Proofs.Text.Trimming
import BuildTriage.Proofs.Triage.Spelling
import BuildTriage.Proofs.Log.Resumption
import BuildTriage.Proofs.Log.TailAccount
import BuildTriage.Proofs.Triage.Dependence
