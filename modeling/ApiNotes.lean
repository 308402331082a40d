import ApiNotes.Main
import ApiNotes.Proofs.Policies
import ApiNotes.Proofs.Termination
import ApiNotes.Proofs.UseGraph
import ApiNotes.Proofs.Lines
import ApiNotes.Proofs.Segmentation
import ApiNotes.Proofs.Tokens
import ApiNotes.Proofs.Canonical
import ApiNotes.Proofs.TagFamilies
import ApiNotes.Proofs.Collections
import ApiNotes.Proofs.Lookup
import ApiNotes.Proofs.LineEndings
import ApiNotes.Proofs.Placement
import ApiNotes.Proofs.RouteLines
import ApiNotes.Proofs.Scans
import ApiNotes.Proofs.LeftmostTokens
import ApiNotes.Proofs.JsonGrammar
import ApiNotes.Proofs.JsonDocuments
import ApiNotes.Proofs.ParamLines
import ApiNotes.Proofs.ParamTables
import ApiNotes.Proofs.IndexLinks
import ApiNotes.Proofs.BasePaths
import ApiNotes.Proofs.OverlappingTokens
import ApiNotes.Proofs.FileTrees
import ApiNotes.Proofs.VersionFiles
import ApiNotes.Proofs.Runs
import ApiNotes.Proofs.Margins
import ApiNotes.Proofs.SpliceQueues
import ApiNotes.Proofs.PathOrder
import ApiNotes.Proofs.SpelledPaths
import ApiNotes.Proofs.SameFiles
import ApiNotes.Proofs.TagTexts
import ApiNotes.Proofs.Descriptions
import ApiNotes.Proofs.ErrorStatuses
