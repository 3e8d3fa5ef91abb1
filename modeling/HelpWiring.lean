import HelpWiring.Disk.Change
import HelpWiring.Main
import HelpWiring.Proofs.Page.Insertion
import HelpWiring.Proofs.Page.Guard
import HelpWiring.Proofs.Page.History
import HelpWiring.Proofs.Page.Agreement
import HelpWiring.Proofs.Page.Grammar
import HelpWiring.Proofs.Page.Scan
import HelpWiring.Proofs.Page.Anchor
import HelpWiring.Proofs.Page.Again
import HelpWiring.Proofs.Batch.Visit
import HelpWiring.Proofs.Batch.Isolation
import HelpWiring.Proofs.Batch.Again
import HelpWiring.Proofs.Page.Growth
import HelpWiring.Proofs.Page.WellShaped
import HelpWiring.Proofs.Batch.Frame
import HelpWiring.Proofs.Batch.Report
import HelpWiring.Proofs.Page.Closing
import HelpWiring.Proofs.Page.Lines
import HelpWiring.Proofs.Page.Placement
import HelpWiring.Proofs.Page.Cleaning
import HelpWiring.Proofs.Page.Imports
import HelpWiring.Proofs.Catalog.Merging
import HelpWiring.Proofs.Batch.Spelling
import HelpWiring.Proofs.Command.Ending
import HelpWiring.Proofs.Page.Tail
import HelpWiring.Proofs.Page.Opening
import HelpWiring.Proofs.Batch.Refusal
import HelpWiring.Proofs.Page.Repeats
import HelpWiring.Proofs.Batch.Cleaning
import HelpWiring.Proofs.Catalog.Faults
import HelpWiring.Proofs.Page.HookAlone
import HelpWiring.Proofs.Page.Reach
import HelpWiring.Proofs.Page.Tags
import HelpWiring.Proofs.Page.Order
import HelpWiring.Proofs.Page.Staged
import HelpWiring.Proofs.Page.NewLines
import HelpWiring.Proofs.Report.Readable
import HelpWiring.Proofs.Report.Marks
