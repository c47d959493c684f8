import FieldBridge.Graph.Registry
import FieldBridge.Main
import FieldBridge.Proofs.Nesting
import FieldBridge.Proofs.Closing
import FieldBridge.Proofs.Likeness
import FieldBridge.Proofs.LikeReading
import FieldBridge.Proofs.Lexing
import FieldBridge.Proofs.Placement
import FieldBridge.Proofs.Searching
import FieldBridge.Proofs.InlineBody
import FieldBridge.Proofs.Verdicts
import FieldBridge.Proofs.MatchingBrace
import FieldBridge.Proofs.Fieldless
import FieldBridge.Proofs.Rereading
import FieldBridge.Proofs.Groups
import FieldBridge.Proofs.Standalone
import FieldBridge.Proofs.Independence
import FieldBridge.Proofs.Rendering
import FieldBridge.Proofs.WrittenTypes
import FieldBridge.Proofs.WrittenEntries
import FieldBridge.Proofs.Recovery
import FieldBridge.Proofs.Layout
import FieldBridge.Proofs.GroupMembers
import FieldBridge.Proofs.Routes
import FieldBridge.Proofs.Stitching
import FieldBridge.Proofs.References
import FieldBridge.Proofs.BufferedText
import FieldBridge.Proofs.FunctionText
import FieldBridge.Proofs.FunctionLines
import FieldBridge.Proofs.FieldHandles
import FieldBridge.Proofs.SinglePair
import FieldBridge.Proofs.Rounding
import FieldBridge.Proofs.ShortestDecimals
import FieldBridge.Proofs.WrittenNumbers
import FieldBridge.Proofs.WrittenJson
import FieldBridge.Proofs.WrittenRecords
import FieldBridge.Proofs.WrittenProjects
import FieldBridge.Proofs.WrittenData
import FieldBridge.Proofs.Essentials
import FieldBridge.Proofs.Reloading
import FieldBridge.Proofs.Attachments
import FieldBridge.Proofs.Bystanders
import FieldBridge.Proofs.Reordering
import FieldBridge.Proofs.FieldNames
import FieldBridge.Proofs.Validity
import FieldBridge.Proofs.Tiling
import FieldBridge.Proofs.LineEnds
import FieldBridge.Proofs.Regions
import FieldBridge.Proofs.FindingPlaces
import FieldBridge.Proofs.StringLiterals
import FieldBridge.Proofs.TokenExchange
import FieldBridge.Proofs.TagStyles
import FieldBridge.Proofs.WrittenTags
import FieldBridge.Proofs.TopLevel
import FieldBridge.Proofs.Outcomes
import FieldBridge.Proofs.Removals
import FieldBridge.Proofs.Qualifiers
import FieldBridge.Proofs.SeveralMappings
import FieldBridge.Proofs.EarlyStop
import FieldBridge.Proofs.CallNames
import FieldBridge.Proofs.FieldSpans
import FieldBridge.Proofs.Carets
import FieldBridge.Proofs.GutterBars
import FieldBridge.Proofs.Registries
import FieldBridge.Proofs.MintedIds
import FieldBridge.Proofs.FileTrees
import FieldBridge.Proofs.GeneratedFiles
import FieldBridge.Proofs.Progress
