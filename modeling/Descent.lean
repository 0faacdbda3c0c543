import Descent.Continuation
import Descent.Grammar
import Descent.Parser.Probe
import Descent.Proofs.Adequacy
import Descent.Proofs.NoFault
import Descent.Proofs.SlicedValues
import Descent.Proofs.Shift
import Descent.Proofs.Placeless
import Descent.Proofs.Finishes
import Descent.Proofs.Failures
import Descent.Proofs.Turns
import Descent.Proofs.Commitment
import Descent.Proofs.HandedBack
import Descent.Proofs.Iteration
import Descent.Proofs.Nesting
import Descent.Proofs.Pinned
import Descent.Proofs.Tentative
import Descent.Proofs.Guarded
import Descent.Proofs.Calls
import Descent.Proofs.Words
import Descent.Proofs.ByContinuation
import Descent.Proofs.Separated
import Descent.Proofs.Unrolling
import Descent.Proofs.Pieces
import Descent.Proofs.NestedRepetition
import Descent.Proofs.LineColumn
import Descent.Proofs.Report
import Descent.Proofs.Wrappers
import Descent.Proofs.WholeInput
import Descent.Proofs.FoundHere
import Descent.Proofs.OrderedChoice
import Descent.Proofs.Grouping
import Descent.Proofs.ValidPatterns
