import BehaviorDiff.Tree.Outline
import BehaviorDiff.Tree.Stats
import BehaviorDiff.Diff.Documents
import BehaviorDiff.Diff.Ignoring
import BehaviorDiff.Selection
import BehaviorDiff.Unicode.CodeRanges
import BehaviorDiff.Unicode.Unprintable
import BehaviorDiff.Text.Quoted
import BehaviorDiff.Markup.Characters
import BehaviorDiff.Markup.Reference
import BehaviorDiff.Markup.Attribute
import BehaviorDiff.Markup.Piece
import BehaviorDiff.Markup.Event
import BehaviorDiff.Markup.Definitions
import BehaviorDiff.Text.Json
import BehaviorDiff.Timestamp
import BehaviorDiff.Report.Text
import BehaviorDiff.Report.Json
import BehaviorDiff.Unicode.Property
import BehaviorDiff.Unicode.CaseFolding
import BehaviorDiff.Unicode.Word
import BehaviorDiff.Preferences
import BehaviorDiff.Main
import BehaviorDiff.Proofs.Diff.Positions
import BehaviorDiff.Proofs.Diff.Relocation
import BehaviorDiff.Proofs.Diff.ChangeList
import BehaviorDiff.Proofs.Markup.Document
import BehaviorDiff.Proofs.Tree.Chain
import BehaviorDiff.Proofs.Tree.Address
import BehaviorDiff.Proofs.Diff.Address
import BehaviorDiff.Proofs.Tree.Position
import BehaviorDiff.Proofs.Tree.Edit
import BehaviorDiff.Proofs.Diff.Reparenting
import BehaviorDiff.Proofs.Diff.Ignoring
import BehaviorDiff.Proofs.Diff.Mirror
import BehaviorDiff.Proofs.Diff.Rearrangement
import BehaviorDiff.Proofs.Diff.Agreement
import BehaviorDiff.Proofs.Diff.SharedTrees
import BehaviorDiff.Proofs.Diff.References
import BehaviorDiff.Proofs.Diff.Signature
import BehaviorDiff.Proofs.Selection.Optimum
import BehaviorDiff.Proofs.Text.ByteOrder
import BehaviorDiff.Proofs.Markup.WrittenTag
import BehaviorDiff.Proofs.Markup.WrittenPieces
import BehaviorDiff.Proofs.Markup.WrittenForest
import BehaviorDiff.Proofs.Command.Steps
import BehaviorDiff.Proofs.Command.Verdict
import BehaviorDiff.Proofs.Text.JsonTokens
import BehaviorDiff.Proofs.Text.JsonReader
import BehaviorDiff.Proofs.Timestamp
import BehaviorDiff.Proofs.Report.Lossless
import BehaviorDiff.Proofs.Diff.Patch
import BehaviorDiff.Proofs.Tree.Order
import BehaviorDiff.Proofs.Tree.Repetition
import BehaviorDiff.Proofs.Diff.Rejection
import BehaviorDiff.Proofs.Diff.LocalEdit
import BehaviorDiff.Proofs.Yaml.Characters
import BehaviorDiff.Proofs.Yaml.PlainScalars
import BehaviorDiff.Proofs.Yaml.QuotedScalars
import BehaviorDiff.Proofs.Yaml.LiteralBlocks
import BehaviorDiff.Proofs.Yaml.AllowedText
import BehaviorDiff.Proofs.Yaml.Scanning
import BehaviorDiff.Proofs.Yaml.ScannedLines
import BehaviorDiff.Proofs.Yaml.WrittenMapping
import BehaviorDiff.Proofs.Yaml.WrittenEvents
import BehaviorDiff.Proofs.Yaml.WrittenItems
import BehaviorDiff.Proofs.Preferences
import BehaviorDiff.Proofs.Tree.Outline
import BehaviorDiff.Proofs.Diff.ReferenceOrder
import BehaviorDiff.Proofs.Report.Counts
import BehaviorDiff.Proofs.Report.Reconciliation
import BehaviorDiff.Proofs.Command.Failures
import BehaviorDiff.Proofs.Command.Execution
import BehaviorDiff.Proofs.Tree.Walk
import BehaviorDiff.Proofs.Tree.Building
import BehaviorDiff.Proofs.Tree.Statistics
import BehaviorDiff.Proofs.Markup.Attachment
