import Counterpart.Main
import Counterpart.Proofs.Command.Table
import Counterpart.Proofs.Correspondence.Coverage
import Counterpart.Proofs.Correspondence.Decoration
import Counterpart.Proofs.Correspondence.Suffix
import Counterpart.Proofs.Declaration.Decomposition
import Counterpart.Proofs.Difference.Acknowledged
import Counterpart.Proofs.Difference.Alignment
import Counterpart.Proofs.Difference.Matched
import Counterpart.Proofs.Difference.Statics
import Counterpart.Proofs.Document.Reading
import Counterpart.Proofs.Document.Report
import Counterpart.Proofs.Matching.Bystander
import Counterpart.Proofs.Matching.Contention
import Counterpart.Proofs.Matching.Evidence
import Counterpart.Proofs.Matching.Exhaustion
import Counterpart.Proofs.Matching.Ledger
import Counterpart.Proofs.Matching.MarkedRun
import Counterpart.Proofs.Matching.Partition
import Counterpart.Proofs.Matching.RuleOrder
import Counterpart.Proofs.Modifier.Display
import Counterpart.Proofs.Modifier.Wording
import Counterpart.Proofs.Naming.NormalForm
import Counterpart.Proofs.Report.Completeness
import Counterpart.Proofs.Report.Failure
import Counterpart.Proofs.Report.Order
import Counterpart.Proofs.Report.Overrides
import Counterpart.Proofs.Report.Parity
