import RenderAudit.Actual
import RenderAudit.Analysis
import RenderAudit.Arena
import RenderAudit.Arguments
import RenderAudit.Bindings
import RenderAudit.Cancellation
import RenderAudit.CommandLine
import RenderAudit.Comparison
import RenderAudit.Config
import RenderAudit.Content
import RenderAudit.Declared
import RenderAudit.Diagnostic
import RenderAudit.DocTag
import RenderAudit.Element
import RenderAudit.Environment
import RenderAudit.Extraction
import RenderAudit.Failure
import RenderAudit.Finding
import RenderAudit.Forwarding
import RenderAudit.Grammar
import RenderAudit.Json
import RenderAudit.Listing
import RenderAudit.Main
import RenderAudit.Path
import RenderAudit.Props
import RenderAudit.Report
import RenderAudit.Resolver
import RenderAudit.Shape
import RenderAudit.Sorted
import RenderAudit.Source
import RenderAudit.SourceUnit
import RenderAudit.Span
import RenderAudit.Table
import RenderAudit.Target
import RenderAudit.TargetSpec
import RenderAudit.Template
import RenderAudit.Text.Blank
import RenderAudit.Text.Casing
import RenderAudit.Text.CodeRange
import RenderAudit.Text.Decimal
import RenderAudit.Text.Digit
import RenderAudit.Text.Layout
import RenderAudit.Text.Lowercase
import RenderAudit.Text.Printable
import RenderAudit.Text.Quoted
import RenderAudit.Text.Utf8
import RenderAudit.Text.Word
import RenderAudit.Tree
import RenderAudit.Tree.Rows
import RenderAudit.TypeText
import RenderAudit.Usage
import RenderAudit.Workspace
import RenderAudit.Proofs.Steps
import RenderAudit.Proofs.Forwarding
import RenderAudit.Proofs.Resolution
import RenderAudit.Proofs.CycleReport
import RenderAudit.Proofs.Search
import RenderAudit.Proofs.FindingOrigin
import RenderAudit.Proofs.FirmFindings
import RenderAudit.Proofs.DepthBound
import RenderAudit.Proofs.Refinement
import RenderAudit.Proofs.ArenaSound
import RenderAudit.Proofs.ExtractionSound
import RenderAudit.Proofs.DeclaredSound
import RenderAudit.Proofs.UsageSound
import RenderAudit.Proofs.AnalysisSound
import RenderAudit.Proofs.PolicyOrder
import RenderAudit.Proofs.MismatchScope
import RenderAudit.Proofs.OpaqueContent
import RenderAudit.Proofs.ReachPaths
import RenderAudit.Proofs.UntracedComponents
import RenderAudit.Proofs.Saturation
import RenderAudit.Proofs.SaturatedReport
import RenderAudit.Proofs.Attachment
import RenderAudit.Proofs.NodeReading
import RenderAudit.Proofs.Traversal
import RenderAudit.Proofs.TagAccounting
import RenderAudit.Proofs.ShortestEdges
import RenderAudit.Proofs.StoredTags
import RenderAudit.Proofs.DeclaredImage
import RenderAudit.Proofs.DroppedProperties
import RenderAudit.Proofs.ContentRegions
import RenderAudit.Proofs.ElementParts
import RenderAudit.Proofs.ElementAccount
import RenderAudit.Proofs.ElementsOnce
import RenderAudit.Proofs.ForwardingRecords
import RenderAudit.Proofs.ExtractionSteps
import RenderAudit.Proofs.UndeclaredUsage
import RenderAudit.Proofs.NameResolution
import RenderAudit.Proofs.TagLines
import RenderAudit.Proofs.TagPlaces
import RenderAudit.Proofs.PropsClosure
import RenderAudit.Proofs.PropReads
import RenderAudit.Proofs.TargetGrammar
import RenderAudit.Proofs.TopLevel
import RenderAudit.Proofs.TypeReading
import RenderAudit.Proofs.CanonicalReport
import RenderAudit.Proofs.ArenaIndexes
import RenderAudit.Proofs.FindingSources
import RenderAudit.Proofs.Unannotated
import RenderAudit.Proofs.MessageTemplates
import RenderAudit.Proofs.GrammarCounters
import RenderAudit.Proofs.Preorder
import RenderAudit.Proofs.TopLevelDivision
import RenderAudit.Proofs.UnitIndex
