import Patchwork.Main
import Patchwork.Proofs.Document.Production
import Patchwork.Proofs.Include.Expansion
import Patchwork.Proofs.Include.Termination
import Patchwork.Proofs.Include.Failure
import Patchwork.Proofs.Document.Located
import Patchwork.Proofs.Document.Provenance
import Patchwork.Proofs.Include.Cycle
import Patchwork.Proofs.Command.Reports
import Patchwork.Proofs.Document.Overlap
import Patchwork.Proofs.Document.Commute
import Patchwork.Proofs.Source.Null
import Patchwork.Proofs.Config.Faults
import Patchwork.Proofs.Include.Blame
import Patchwork.Proofs.Command.Faults
import Patchwork.Proofs.Document.Update
import Patchwork.Proofs.Document.Comments
import Patchwork.Proofs.Include.Settled
import Patchwork.Proofs.Diagnostic.Carets
import Patchwork.Proofs.Document.Lookup
import Patchwork.Proofs.Text.Ansi
import Patchwork.Proofs.Diagnostic.Colors
import Patchwork.Proofs.Toml.Keys
import Patchwork.Proofs.Config.Options
import Patchwork.Proofs.Section.Pieces
import Patchwork.Proofs.Section.Partition
