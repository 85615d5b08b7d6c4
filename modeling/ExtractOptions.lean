import ExtractOptions.Config.Walk
import ExtractOptions.Destination
import ExtractOptions.Main
import ExtractOptions.Proofs.Basic
import ExtractOptions.Proofs.Action
import ExtractOptions.Proofs.DataLine
import ExtractOptions.Proofs.Config.Change
import ExtractOptions.Proofs.Session.Step
import ExtractOptions.Proofs.Session.Effect
import ExtractOptions.Proofs.Run.Given
import ExtractOptions.Proofs.Run.Chronology
import ExtractOptions.Proofs.Config.Consistency
import ExtractOptions.Proofs.Run.Consistency
import ExtractOptions.Proofs.Run.Dependence
import ExtractOptions.Proofs.Run.Exclusion
import ExtractOptions.Proofs.Disk.Lines
import ExtractOptions.Proofs.Disk.Swap
import ExtractOptions.Proofs.Inclusion.Mirror
import ExtractOptions.Proofs.Inclusion.Effect
import ExtractOptions.Proofs.Inclusion.Trail
import ExtractOptions.Proofs.Inclusion.Abreast
import ExtractOptions.Proofs.Inclusion.Expansion
import ExtractOptions.Proofs.Config.Refusal
import ExtractOptions.Proofs.Session.Unaware
import ExtractOptions.Proofs.Run.Course
import ExtractOptions.Proofs.Run.Routing
import ExtractOptions.Proofs.Run.Soundness
import ExtractOptions.Proofs.Disk.Growth
import ExtractOptions.Proofs.Inclusion.Stack
import ExtractOptions.Proofs.Inclusion.Guard
import ExtractOptions.Proofs.Text.Utf8
import ExtractOptions.Proofs.Disk.Written
import ExtractOptions.Proofs.Disk.Beside
import ExtractOptions.Proofs.Session.Beside
import ExtractOptions.Proofs.Transcript.Entry
import ExtractOptions.Proofs.Transcript.Alongside
import ExtractOptions.Proofs.Transcript.Agreement
import ExtractOptions.Proofs.CommandLine.Composition
import ExtractOptions.Proofs.Session.Atomic
import ExtractOptions.Proofs.Session.DataFile
import ExtractOptions.Proofs.Run.Residue
import ExtractOptions.Proofs.Run.Monotonicity
import ExtractOptions.Proofs.Config.Aims
import ExtractOptions.Proofs.Session.Accord
import ExtractOptions.Proofs.Run.Accord
import ExtractOptions.Proofs.Run.Surface
import ExtractOptions.Proofs.Run.Distribution
import ExtractOptions.Proofs.Disk.Footprint
import ExtractOptions.Proofs.Run.Footprint
import ExtractOptions.Proofs.Run.Diagnosis
import ExtractOptions.Proofs.Run.Report
import ExtractOptions.Proofs.Run.Mark
import ExtractOptions.Proofs.Run.Flag
import ExtractOptions.Proofs.CommandLine.Order
import ExtractOptions.Proofs.Text.Pieces
import ExtractOptions.Proofs.Text.Numeral
import ExtractOptions.Proofs.GameRanges.Reading
import ExtractOptions.Proofs.GameRanges.Walk
import ExtractOptions.Proofs.Bounds.Course
import ExtractOptions.Proofs.Bounds.Order
import ExtractOptions.Proofs.Bounds.Agreement
import ExtractOptions.Proofs.CommandLine.Consumption
import ExtractOptions.Proofs.Config.Repetition
import ExtractOptions.Proofs.Run.Repetition
import ExtractOptions.Proofs.Inclusion.Unison
import ExtractOptions.Proofs.Inclusion.DataLines
import ExtractOptions.Proofs.Inclusion.DataBlock
import ExtractOptions.Proofs.Session.Tally
import ExtractOptions.Proofs.Run.Tally
import ExtractOptions.Proofs.Settings.Layers
import ExtractOptions.Proofs.Settings.Environment
import ExtractOptions.Proofs.Yaml.Tokens
import ExtractOptions.Proofs.Yaml.Mapping
import ExtractOptions.Proofs.Yaml.Recognition
import ExtractOptions.Proofs.Settings.RoundTrip
import ExtractOptions.Proofs.Disk.Pieces
import ExtractOptions.Proofs.Config.Value
import ExtractOptions.Proofs.Config.Numeric
import ExtractOptions.Proofs.Run.Numeric
import ExtractOptions.Proofs.Run.Delivery
import ExtractOptions.Proofs.Session.Parts
import ExtractOptions.Proofs.Session.Ledger
import ExtractOptions.Proofs.Run.Ledger
import ExtractOptions.Proofs.Run.Sources
import ExtractOptions.Proofs.Text.WellFormed
import ExtractOptions.Proofs.Run.Lines
import ExtractOptions.Proofs.Bounds.Spec
import ExtractOptions.Proofs.Text.Case
import ExtractOptions.Proofs.Run.Format
import ExtractOptions.Proofs.Text.Hexadecimal
import ExtractOptions.Proofs.Run.Hash
import ExtractOptions.Proofs.Directive
