import Acceptor.Diagram.Drawing
import Acceptor.Main
import Acceptor.Page.Visit
import Acceptor.Run.Trace
import Acceptor.Workbench.Command
import Acceptor.Proofs.Spec.RoundTrip
import Acceptor.Proofs.Run.Storyboard
import Acceptor.Proofs.Workbench.Lock
import Acceptor.Proofs.Automaton.Editing
import Acceptor.Proofs.Workbench.Undo
import Acceptor.Proofs.Workbench.Snapshot
import Acceptor.Proofs.Spec.Surroundings
import Acceptor.Proofs.Importing
import Acceptor.Proofs.Page.Showing
import Acceptor.Proofs.Run.Naming
import Acceptor.Proofs.Automaton.Renaming
import Acceptor.Proofs.Spec.Renumbering
import Acceptor.Proofs.Diagram.Dot.Lexing
import Acceptor.Proofs.Page.Refusal
import Acceptor.Proofs.Diagram.Dot.Reading
import Acceptor.Proofs.Diagram.Drawing
import Acceptor.Proofs.Automaton.Likeness
import Acceptor.Proofs.Run.EdgeNumbers
import Acceptor.Proofs.Spec.RowOrder
import Acceptor.Proofs.Workbench.Congruence
import Acceptor.Proofs.Run.Iteration
import Acceptor.Proofs.Run.LifeCycle
import Acceptor.Proofs.Run.Honesty
import Acceptor.Proofs.Automaton.EditSequence
import Acceptor.Proofs.Run.EditedCheck
import Acceptor.Proofs.Workbench.Driving
import Acceptor.Proofs.Diagram.Faithful
import Acceptor.Proofs.Run.Input
import Acceptor.Proofs.Automaton.TransitionOrder
import Acceptor.Proofs.CommandLine.Agreement
import Acceptor.Proofs.Spec.Offender
import Acceptor.Proofs.Spec.Places
import Acceptor.Proofs.CommandLine.Formatting
import Acceptor.Proofs.Diagram.Progress
import Acceptor.Proofs.Page.Synchrony
import Acceptor.Proofs.Spec.LineEnds
import Acceptor.Proofs.Spec.Carrying
import Acceptor.Proofs.Automaton.LabelSearch
