import FortranStyle.Main
import FortranStyle.Proofs.Reading.Continuation
import FortranStyle.Proofs.Nesting.Account
import FortranStyle.Proofs.Rendering.Scanning
import FortranStyle.Proofs.LetterCase.Check
import FortranStyle.Proofs.Reading.Resumption
import FortranStyle.Proofs.Reading.Faithful
import FortranStyle.Proofs.Indentation.Reindent
import FortranStyle.Proofs.Containment.Behind
import FortranStyle.Proofs.Position.Check
import FortranStyle.Proofs.Sorting.Arrival
import FortranStyle.Proofs.Locality.Trace
import FortranStyle.Proofs.Placement.Check
import FortranStyle.Proofs.Insertion.Scan
import FortranStyle.Proofs.Reading.Pending
import FortranStyle.Proofs.Range.Source
import FortranStyle.Proofs.Collecting.Views
import FortranStyle.Proofs.Roster.Ended
import FortranStyle.Proofs.Roster.Uses
import FortranStyle.Proofs.Session.Accounting
import FortranStyle.Proofs.Indentation.Continued
import FortranStyle.Proofs.Intent.Reach
import FortranStyle.Proofs.Literal.Folded
import FortranStyle.Proofs.Balance.Section
import FortranStyle.Proofs.Balance.Unit
import FortranStyle.Proofs.Automatic.Array
import FortranStyle.Proofs.Host.Assignment
import FortranStyle.Proofs.Reading.Separator
import FortranStyle.Proofs.Declaring.Statement
import FortranStyle.Proofs.Writing.Lines
import FortranStyle.Proofs.Balance.Stride
import FortranStyle.Proofs.Balance.Conditional
import FortranStyle.Proofs.Settings.Outcome
import FortranStyle.Proofs.Balance.Split
import FortranStyle.Proofs.Balance.Partner
import FortranStyle.Proofs.Reading.Number
