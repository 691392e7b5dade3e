import CppToPython.Command.FileTree
import CppToPython.Main
import CppToPython.Proofs.Command.Effects
import CppToPython.Proofs.Concatenation
import CppToPython.Proofs.Emission.Blocks
import CppToPython.Proofs.Emission.Depth
import CppToPython.Proofs.Emission.Options
import CppToPython.Proofs.Execution.ControlFlow
import CppToPython.Proofs.Execution.Evaluation
import CppToPython.Proofs.Grammar.Acceptance
import CppToPython.Proofs.Grammar.FirstError
import CppToPython.Proofs.Grammar.Height
import CppToPython.Proofs.Grammar.Precedence
import CppToPython.Proofs.Grammar.Session
import CppToPython.Proofs.LayoutFree
import CppToPython.Proofs.RoundTrip
import CppToPython.Proofs.Token.Layout
import CppToPython.Proofs.Token.OwnLines
import CppToPython.Proofs.Token.Faults
import CppToPython.Proofs.Token.Resuming
import CppToPython.Proofs.Viewer.Drawing
import CppToPython.Proofs.Viewer.Runs
import CppToPython.Proofs.Viewer.ErrorLine
import CppToPython.Proofs.Execution.Counting
import CppToPython.Proofs.Execution.Writes
import CppToPython.Proofs.Emission.Separation
import CppToPython.Proofs.Emission.Grouping
import CppToPython.Proofs.Grammar.Yield
import CppToPython.Proofs.Grammar.Directives
import CppToPython.Proofs.Emission.Placeholders
import CppToPython.Proofs.Emission.OutputLines
import CppToPython.Proofs.Viewer.Agreement
