import CodeAtlas.Main
import CodeAtlas.Proofs.Analyzer.Atomicity
import CodeAtlas.Proofs.Analyzer.Failures
import CodeAtlas.Proofs.Analyzer.Numbering
import CodeAtlas.Proofs.Analyzer.Reordering
import CodeAtlas.Proofs.Analyzer.Targets
import CodeAtlas.Proofs.Database.Batches
import CodeAtlas.Proofs.Dependency.Recursion
import CodeAtlas.Proofs.Graph.Bases
import CodeAtlas.Proofs.Graph.Containment
import CodeAtlas.Proofs.Graph.Files
import CodeAtlas.Proofs.Graph.Search
import CodeAtlas.Proofs.Language.DottedImports
import CodeAtlas.Proofs.Language.ScriptImports
import CodeAtlas.Proofs.Language.Stripping
import CodeAtlas.Proofs.Resolver.Directories
import CodeAtlas.Proofs.Resolver.Dotted
import CodeAtlas.Proofs.Run.Stability
import CodeAtlas.Proofs.Service.Progress
import CodeAtlas.Proofs.Visit.Bindings
import CodeAtlas.Proofs.Visit.Preorder
import CodeAtlas.Proofs.Visit.Rebinding
import CodeAtlas.Proofs.Visit.TemplatePlaces
