import StackCalculator.Double.ReadBack
import StackCalculator.LineEditor
import StackCalculator.Main
import StackCalculator.Proofs.Calculator.Snapshots
import StackCalculator.Proofs.Calculator.Replay
import StackCalculator.Proofs.Command.Grammar
import StackCalculator.Proofs.Session.Reading
import StackCalculator.Proofs.Session.Endings
import StackCalculator.Proofs.LineEditor.Piped
import StackCalculator.Proofs.LineEditor.Terminal
import StackCalculator.Proofs.Calculator.Failures
import StackCalculator.Proofs.Calculator.InPlace
import StackCalculator.Proofs.Calculator.Frame
import StackCalculator.Proofs.Calculator.Balance
import StackCalculator.Proofs.Session.BrokenLines
import StackCalculator.Proofs.Session.Retyping
import StackCalculator.Proofs.Calculator.Bookkeeping
import StackCalculator.Proofs.LineEditor.Farewell
import StackCalculator.Proofs.Session.LimitedRoom
import StackCalculator.Proofs.Command.Numbers
import StackCalculator.Proofs.Calculator.Inversion
import StackCalculator.Proofs.Log.Runs
