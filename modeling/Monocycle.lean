import Monocycle.CommandLine.Session
import Monocycle.Figure
import Monocycle.Main
import Monocycle.Web.Api
import Monocycle.Proofs.BitVector
import Monocycle.Proofs.Machine.Control
import Monocycle.Proofs.Assembly.Records
import Monocycle.Proofs.Machine.Reference
import Monocycle.Proofs.Machine.Refinement
import Monocycle.Proofs.Simulator.Listener
import Monocycle.Proofs.Simulator.Run
import Monocycle.Proofs.Simulator.History
import Monocycle.Proofs.Simulator.Control
import Monocycle.Proofs.Machine.Run
import Monocycle.Proofs.Simulator.Conduct
import Monocycle.Proofs.Simulator.Segments
import Monocycle.Proofs.Text.Ascii
import Monocycle.Proofs.Text.Numeral
import Monocycle.Proofs.Text.Words
import Monocycle.Proofs.Assembly.Operands
import Monocycle.Proofs.Assembly.Labels
import Monocycle.Proofs.Assembly.RoundTrip
import Monocycle.Proofs.Assembly.Layout
import Monocycle.Proofs.Assembly.WellFormed
import Monocycle.Proofs.Machine.Assembled
import Monocycle.Proofs.Assembly.Failing
import Monocycle.Proofs.Machine.LabelBranches
import Monocycle.Proofs.Simulator.Loads
import Monocycle.Proofs.Machine.Words
import Monocycle.Proofs.Machine.StoreLog
import Monocycle.Proofs.Value.Rounding
import Monocycle.Proofs.Delay
import Monocycle.Proofs.Simulator.Settings
import Monocycle.Proofs.Simulator.Replay
import Monocycle.Proofs.Text.Digits
import Monocycle.Proofs.Assembly.DigitLimit
import Monocycle.Proofs.Simulator.LoadAnswer
import Monocycle.Proofs.Assembly.Concatenation
import Monocycle.Proofs.Assembly.Stripping
import Monocycle.Proofs.Assembly.AcceptedLines
import Monocycle.Proofs.Simulator.Bystanders
import Monocycle.Proofs.Web.Answers
import Monocycle.Proofs.Web.Effects
import Monocycle.Proofs.Text.Integers
import Monocycle.Proofs.Machine.Window
import Monocycle.Proofs.CommandLine.Arguments
import Monocycle.Proofs.CommandLine.Report
import Monocycle.Proofs.CommandLine.Session
import Monocycle.Proofs.FrontEnds
import Monocycle.Proofs.InstructionSet
import Monocycle.Proofs.Machine.Assignments
import Monocycle.Proofs.Machine.Events
import Monocycle.Proofs.Simulator.FailedStep
import Monocycle.Proofs.Simulator.Viewer
import Monocycle.Proofs.Machine.Stretch
import Monocycle.Proofs.Simulator.Account
import Monocycle.Proofs.Machine.ForwardBranches
import Monocycle.Proofs.Simulator.ForwardPrograms
import Monocycle.Proofs.Text.LetterCase
import Monocycle.Proofs.Assembly.Literals
import Monocycle.Proofs.Assembly.NumberLabels
import Monocycle.Proofs.Text.FoldedCase
import Monocycle.Proofs.Assembly.AccessOperands
import Monocycle.Proofs.Assembly.LetterCase
import Monocycle.Proofs.Machine.MemoryView
import Monocycle.Proofs.CommandLine.Trace
import Monocycle.Proofs.Value.Entries
import Monocycle.Proofs.Settings.Merge
import Monocycle.Proofs.Text.Spacing
import Monocycle.Proofs.Assembly.Lexing
import Monocycle.Proofs.CommandLine.RegisterTable
