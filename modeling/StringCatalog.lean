import StringCatalog.Main
import StringCatalog.Proofs.Analysis
import StringCatalog.Proofs.Catalog.Again
import StringCatalog.Proofs.Catalog.Framing
import StringCatalog.Proofs.Catalog.Quoting
import StringCatalog.Proofs.Catalog.Read
import StringCatalog.Proofs.Catalog.Readable
import StringCatalog.Proofs.Catalog.Reference
import StringCatalog.Proofs.Catalog.RoundTrip
import StringCatalog.Proofs.CommandLine.Delivered
import StringCatalog.Proofs.CommandLine.Detail
import StringCatalog.Proofs.Extraction.Combined
import StringCatalog.Proofs.Extraction.Input
import StringCatalog.Proofs.Extraction.Rendered
import StringCatalog.Proofs.Extraction.Surrounding
import StringCatalog.Proofs.Extraction.Whole
import StringCatalog.Proofs.Placeholder.Chunk
import StringCatalog.Proofs.Placeholder.Comparison
import StringCatalog.Proofs.Program.Remark
import StringCatalog.Proofs.Program.TaggedLine
import StringCatalog.Proofs.Resource.Embedded
import StringCatalog.Proofs.Resource.Markup
import StringCatalog.Proofs.Resource.PlainElement
import StringCatalog.Proofs.Resource.Remark
import StringCatalog.Proofs.Resource.Unnamed
import StringCatalog.Proofs.Translatable.Reference
import StringCatalog.Proofs.Workspace.CarryOver
import StringCatalog.Proofs.Workspace.Merge
import StringCatalog.Proofs.Workspace.Reduce
import StringCatalog.Workspace.Step
import StringCatalog.Proofs.Text.Search
