import ObjectInitializer.Text.Blank
import ObjectInitializer.Text.Case
import ObjectInitializer.Text.Position
import ObjectInitializer.Json.Basic
import ObjectInitializer.Json.Number
import ObjectInitializer.Json.Compact
import ObjectInitializer.Json.Parse
import ObjectInitializer.Tree
import ObjectInitializer.Writer
import ObjectInitializer.Tally
import ObjectInitializer.Emitter
import ObjectInitializer.Layout
import ObjectInitializer.Limits
import ObjectInitializer.Disk
import ObjectInitializer.Conversion
import ObjectInitializer.CommandLine.Session
import ObjectInitializer.Main
import ObjectInitializer.Proofs.Counts
import ObjectInitializer.Proofs.Depths
import ObjectInitializer.Proofs.Cutting
import ObjectInitializer.Proofs.Faithful
import ObjectInitializer.Proofs.FirstFailure
import ObjectInitializer.Proofs.InputSize
import ObjectInitializer.Proofs.Json.Compact
import ObjectInitializer.Proofs.Json.Completeness
import ObjectInitializer.Proofs.Json.Grammar
import ObjectInitializer.Proofs.Json.Members
import ObjectInitializer.Proofs.Json.Numeral
import ObjectInitializer.Proofs.Json.Places
import ObjectInitializer.Proofs.Json.Reports
import ObjectInitializer.Proofs.Json.Soundness
import ObjectInitializer.Proofs.Json.Strings
import ObjectInitializer.Proofs.Limits
import ObjectInitializer.Proofs.MemoryLimit
import ObjectInitializer.Proofs.Lines
import ObjectInitializer.Proofs.Nesting
import ObjectInitializer.Proofs.Pruning
import ObjectInitializer.Proofs.Respelling
import ObjectInitializer.Proofs.Snapshot
import ObjectInitializer.Proofs.Text.Case
import ObjectInitializer.Proofs.Text.Position
import ObjectInitializer.Proofs.Tree
import ObjectInitializer.Proofs.Visiting
import ObjectInitializer.Proofs.Writing
import ObjectInitializer.Proofs.Json.Surroundings
import ObjectInitializer.Proofs.AcceptedSettings
import ObjectInitializer.Proofs.Appending
import ObjectInitializer.Proofs.Metadata
import ObjectInitializer.Proofs.Numeral
import ObjectInitializer.Proofs.NumberText
import ObjectInitializer.Proofs.Flags
import ObjectInitializer.Proofs.Disk
import ObjectInitializer.Proofs.OutputOnly
import ObjectInitializer.Proofs.Json.LeadingNewlines
import ObjectInitializer.Proofs.Sequence
import ObjectInitializer.Proofs.Levels
import ObjectInitializer.Proofs.LineCounts
import ObjectInitializer.Proofs.Relayout
import ObjectInitializer.Proofs.OutputFile
import ObjectInitializer.Proofs.Shifting
