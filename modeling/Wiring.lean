import Wiring.Text.Blank
import Wiring.Text.Lowercase
import Wiring.Text.Quoted
import Wiring.Text.Utf8
import Wiring.Text.Width
import Wiring.Text.Word
import Wiring.Source.ClassConstructor
import Wiring.Source.ClassHeader
import Wiring.Source.Statement
import Wiring.Source.TrailingComma
import Wiring.Injection
import Wiring.FixPlan
import Wiring.Manifest.Validity
import Wiring.Report
import Wiring.Toml.Document
import Wiring.Manifest.Decoding
import Wiring.Layout.Columns
import Wiring.Layout.Json
import Wiring.Run
import Wiring.CommandLine.Execution
import Wiring.Main
import Wiring.Proofs.ClassConstructor
import Wiring.Proofs.ClassHeader
import Wiring.Proofs.Identifier
import Wiring.Proofs.Import
import Wiring.Proofs.Injection
import Wiring.Proofs.Insertion
import Wiring.Proofs.Location
import Wiring.Proofs.Masking
import Wiring.Proofs.NewConstructor
import Wiring.Proofs.OpenInsertion
import Wiring.Proofs.Parameter
import Wiring.Proofs.Recognition
import Wiring.Proofs.Repetition
import Wiring.Proofs.Pointwise
import Wiring.Proofs.Variable
import Wiring.Proofs.DryRun
import Wiring.Proofs.Preservation
import Wiring.Proofs.Replacement
import Wiring.Proofs.Path
import Wiring.Proofs.Schedule
import Wiring.Proofs.Interference
import Wiring.Proofs.LineBreaks
import Wiring.Proofs.Confinement
import Wiring.Proofs.Tracking
import Wiring.Proofs.Grammar
import Wiring.Proofs.Exhaustion
import Wiring.Proofs.ParameterRange
import Wiring.Proofs.ImportOrder
import Wiring.Proofs.Separator
import Wiring.Proofs.FirstFault
import Wiring.Proofs.HeaderGrammar
import Wiring.Proofs.Utf8
import Wiring.Proofs.Projection
import Wiring.Proofs.ImportWarning
import Wiring.Proofs.FixPlan
import Wiring.Proofs.Decoding
