import Retarget.Unicode.Property
import Retarget.Unicode.Fold
import Retarget.Unicode.Digit
import Retarget.Unicode.Word
import Retarget.Pattern.Reader
import Retarget.Pattern.Node
import Retarget.Pattern.Program
import Retarget.Pattern.Search
import Retarget.Pattern.Basic
import Retarget.Edit
import Retarget.Template
import Retarget.Rule.Registry
import Retarget.Yaml.Scalar
import Retarget.Yaml.Node
import Retarget.RuleFile
import Retarget.FileKind
import Retarget.Exclusion
import Retarget.Text.Utf8
import Retarget.Text.Line
import Retarget.Diff.Unified
import Retarget.Report.Summary
import Retarget.Console.Format
import Retarget.Console.JsonValue
import Retarget.Console.Style
import Retarget.Toml.Document
import Retarget.Settings
import Retarget.Disk.Write
import Retarget.Convert.Converter
import Retarget.RuleFolder
import Retarget.Settings.Search
import Retarget.Backup
import Retarget.Command.Invocation
import Retarget.Command.Run
import Retarget.Main
import Retarget.Proofs.RulePass
import Retarget.Proofs.Meaning
import Retarget.Proofs.PlainPattern
import Retarget.Proofs.Trigger
import Retarget.Proofs.BuiltinCalls
import Retarget.Proofs.ExactMirror
import Retarget.Proofs.InputKept
import Retarget.Proofs.SingleFile
import Retarget.Proofs.Preconditions
import Retarget.Proofs.Ancestors
import Retarget.Proofs.Sessions
import Retarget.Proofs.BackupCopy
import Retarget.Proofs.SavedOutput
import Retarget.Proofs.OutputFrame
import Retarget.Proofs.PredictedOutput
import Retarget.Proofs.OwnOutput
import Retarget.Proofs.FileSteps
import Retarget.Proofs.Crew
import Retarget.Proofs.Together
import Retarget.Proofs.ParallelWalk
import Retarget.Proofs.HollowOutput
import Retarget.Proofs.Edits
import Retarget.Proofs.Histories
import Retarget.Proofs.Accounts
import Retarget.Proofs.TemplateForms
import Retarget.Proofs.TemplateGroups
import Retarget.Proofs.TemplateOffsets
import Retarget.Proofs.RepeatedRules
import Retarget.Proofs.ActiveRules
import Retarget.Proofs.FileAgreement
import Retarget.Proofs.Tallies
import Retarget.Proofs.Exclusions
import Retarget.Proofs.BackupHistories
import Retarget.Proofs.Siblings
import Retarget.Proofs.PrintedDiffs
import Retarget.Proofs.Idempotence
import Retarget.Proofs.Preference
import Retarget.Proofs.Rewriting
import Retarget.Proofs.ImportLines
