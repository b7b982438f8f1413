import TargetHelp.Main
import TargetHelp.Proofs.Segments
import TargetHelp.Proofs.WrittenLines
import TargetHelp.Proofs.CrossProduct
import TargetHelp.Proofs.DocumentedBlocks
import TargetHelp.Proofs.Grouping
import TargetHelp.Proofs.LastOfName
import TargetHelp.Proofs.MergedRun
import TargetHelp.Proofs.DecodedLines
import TargetHelp.Proofs.PrintedDatabase
import TargetHelp.Proofs.TableLayout
import TargetHelp.Proofs.RealTargets
import TargetHelp.Proofs.ControlSequences
import TargetHelp.Proofs.FailedRuns
import TargetHelp.Proofs.Widths
import TargetHelp.Proofs.Colors
import TargetHelp.Proofs.ListingLines
import TargetHelp.Proofs.FirstExpansion
import TargetHelp.Proofs.Diagnostics
import TargetHelp.Proofs.LostOutput
import TargetHelp.Proofs.Settings
import TargetHelp.Proofs.StartedTool
import TargetHelp.Proofs.Separators
import TargetHelp.Proofs.Resubstitution
import TargetHelp.Proofs.Fragments
import TargetHelp.Proofs.KnownTargets
import TargetHelp.Proofs.Indentation
import TargetHelp.Proofs.WordRuns
import TargetHelp.Proofs.ByteOrder
import TargetHelp.Proofs.StableGrouping
import TargetHelp.Proofs.FoldedTexts
import TargetHelp.Proofs.LaterRows
