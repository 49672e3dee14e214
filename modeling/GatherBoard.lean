import GatherBoard.Main
import GatherBoard.Proofs.Board.Conservation
import GatherBoard.Proofs.Board.Offsets
import GatherBoard.Proofs.Board.Refusals
import GatherBoard.Proofs.Board.Repetition
import GatherBoard.Proofs.Board.Settling
import GatherBoard.Proofs.Calendar.WrittenDates
import GatherBoard.Proofs.Command.DryRun
import GatherBoard.Proofs.Command.Endings
import GatherBoard.Proofs.Command.Saving
import GatherBoard.Proofs.FirstDates
import GatherBoard.Proofs.Markdown.FixedPoints
import GatherBoard.Proofs.Markdown.RoundTrip
import GatherBoard.Proofs.Markdown.Segmentation
import GatherBoard.Proofs.Rule.Accounting
import GatherBoard.Proofs.Rule.Algebra
import GatherBoard.Proofs.Rule.PersonCase
import GatherBoard.Proofs.Rule.Respelling
import GatherBoard.Proofs.Settings.LastValid
import GatherBoard.Proofs.WordFacts
import GatherBoard.Proofs.Workflow.Announcements
import GatherBoard.Proofs.Workflow.KeptBlocks
import GatherBoard.Proofs.Workflow.Resorting
