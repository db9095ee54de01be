import Looplet.Awk.Evaluation
import Looplet.Awk.Grammar
import Looplet.Awk.Machine
import Looplet.Awk.Program
import Looplet.Awk.Syntax
import Looplet.Awk.Token
import Looplet.Awk.Value
import Looplet.Bound
import Looplet.Bound.Printer
import Looplet.Bound.Resolve
import Looplet.Build
import Looplet.Builtin
import Looplet.Code
import Looplet.Code.Lowering
import Looplet.Code.Machine
import Looplet.Code.Printer
import Looplet.CommandLine
import Looplet.Compile
import Looplet.CompileError
import Looplet.ExitStatus
import Looplet.FileSystem
import Looplet.FileSystem.Standard
import Looplet.Host
import Looplet.Launch
import Looplet.Log
import Looplet.Main
import Looplet.Options
import Looplet.Position
import Looplet.Proofs.Bound.Accesses
import Looplet.Proofs.Bound.Binding
import Looplet.Proofs.Bound.Earliest
import Looplet.Proofs.Bound.Faults
import Looplet.Proofs.Bound.Literals
import Looplet.Proofs.Bound.Meaning
import Looplet.Proofs.Bound.Moved
import Looplet.Proofs.Bound.Numbering
import Looplet.Proofs.Bound.Preservation
import Looplet.Proofs.Bound.References
import Looplet.Proofs.Bound.Renamed
import Looplet.Proofs.Bound.Scope
import Looplet.Proofs.Bound.Table
import Looplet.Proofs.Bound.Validity
import Looplet.Proofs.Build
import Looplet.Proofs.Code.Behavior
import Looplet.Proofs.Code.Frame
import Looplet.Proofs.Code.Steps
import Looplet.Proofs.Code.WellFormed
import Looplet.Proofs.CommandLine
import Looplet.Proofs.Compile
import Looplet.Proofs.Emission
import Looplet.Proofs.FileSystem
import Looplet.Proofs.FileSystem.Removal
import Looplet.Proofs.ItemOrder
import Looplet.Proofs.Joining
import Looplet.Proofs.Launch
import Looplet.Proofs.Layout
import Looplet.Proofs.Literals
import Looplet.Proofs.Lowering.Additions
import Looplet.Proofs.Lowering.Correctness
import Looplet.Proofs.Lowering.Draft
import Looplet.Proofs.Lowering.Evaluation
import Looplet.Proofs.Lowering.Execution
import Looplet.Proofs.Lowering.Fragment
import Looplet.Proofs.Lowering.Independence
import Looplet.Proofs.Lowering.Operands
import Looplet.Proofs.Lowering.Program
import Looplet.Proofs.Lowering.Refusal
import Looplet.Proofs.Lowering.Shape
import Looplet.Proofs.Lowering.Statement
import Looplet.Proofs.Lowering.Structure
import Looplet.Proofs.Lowering.Success
import Looplet.Proofs.Lowering.Tidy
import Looplet.Proofs.Lowering.WellFormed
import Looplet.Proofs.Native
import Looplet.Proofs.Outcome
import Looplet.Proofs.Parentheses
import Looplet.Proofs.Result
import Looplet.Proofs.Token.Boundary
import Looplet.Proofs.Token.Cursor
import Looplet.Proofs.Token.Genuine
import Looplet.Proofs.Token.History
import Looplet.Proofs.Token.Insertion
import Looplet.Proofs.Token.Munch
import Looplet.Proofs.Token.Numeral
import Looplet.Proofs.Token.Order
import Looplet.Proofs.Token.Piece
import Looplet.Proofs.Token.Skim
import Looplet.Proofs.Toolchain
import Looplet.Proofs.Tree.Agreement
import Looplet.Proofs.Tree.Anchors
import Looplet.Proofs.Tree.Completeness
import Looplet.Proofs.Tree.Descent
import Looplet.Proofs.Tree.Expressible
import Looplet.Proofs.Tree.Grammar
import Looplet.Proofs.Tree.Language
import Looplet.Proofs.Tree.Literals
import Looplet.Proofs.Tree.Lookahead
import Looplet.Proofs.Tree.Meaning
import Looplet.Proofs.Tree.Moved
import Looplet.Proofs.Tree.Occurrence
import Looplet.Proofs.Tree.Places
import Looplet.Proofs.Tree.Progress
import Looplet.Proofs.Tree.Reading
import Looplet.Proofs.Tree.Renamed
import Looplet.Proofs.Tree.Rules
import Looplet.Proofs.Tree.Soundness
import Looplet.Proofs.Tree.Valued
import Looplet.Proofs.Tree.Viable
import Looplet.Proofs.Tree.Written
import Looplet.Shell.Arithmetic
import Looplet.Shell.Braces
import Looplet.Shell.Builtins
import Looplet.Shell.Calculation
import Looplet.Shell.Condition
import Looplet.Shell.CountedCondition
import Looplet.Shell.Declaration
import Looplet.Shell.Directories
import Looplet.Shell.Evaluation
import Looplet.Shell.Execution
import Looplet.Shell.Expansion
import Looplet.Shell.Finding
import Looplet.Shell.Format
import Looplet.Shell.Grammar
import Looplet.Shell.Intake
import Looplet.Shell.Layout
import Looplet.Shell.Lookup
import Looplet.Shell.Machine
import Looplet.Shell.Naming
import Looplet.Shell.Paths
import Looplet.Shell.Pattern
import Looplet.Shell.Printing
import Looplet.Shell.Process
import Looplet.Shell.Programs
import Looplet.Shell.Quoting
import Looplet.Shell.Reader
import Looplet.Shell.Redirection
import Looplet.Shell.Session
import Looplet.Shell.Settings
import Looplet.Shell.Signal
import Looplet.Shell.SimpleCommand
import Looplet.Shell.Starting
import Looplet.Shell.Stream
import Looplet.Shell.Syntax
import Looplet.Shell.Table
import Looplet.Shell.Testing
import Looplet.Shell.Toggles
import Looplet.Shell.Trace
import Looplet.Shell.Usage
import Looplet.Shell.View
import Looplet.SystemError
import Looplet.Text.Binary
import Looplet.Text.Blank
import Looplet.Text.Bytes
import Looplet.Text.CharSet
import Looplet.Text.Combining
import Looplet.Text.Decimal
import Looplet.Text.Difference
import Looplet.Text.Digest
import Looplet.Text.Hidden
import Looplet.Text.Lines
import Looplet.Text.Quoted
import Looplet.Text.Regex
import Looplet.Text.Regex.Reader
import Looplet.Text.Scientific
import Looplet.Token
import Looplet.Token.Lexer
import Looplet.Token.Schedule
import Looplet.Toolchain
import Looplet.Toolchain.Link
import Looplet.Toolchain.Native
import Looplet.Tree
import Looplet.Tree.Parser
import Looplet.Tree.Printer
import Looplet.Utility
import Looplet.Utility.Basic
import Looplet.Utility.Characters
import Looplet.Utility.Comparing
import Looplet.Utility.Digests
import Looplet.Utility.Edit
import Looplet.Utility.Files
import Looplet.Utility.Lines
import Looplet.Utility.Listing
import Looplet.Utility.Matching
import Looplet.Utility.Output
import Looplet.Utility.Pieces
import Looplet.Utility.Sorting
import Looplet.Utility.StreamEditor
