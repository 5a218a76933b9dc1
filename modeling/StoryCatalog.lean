import StoryCatalog.Main
import StoryCatalog.Proofs.Catalog.Again
import StoryCatalog.Proofs.Catalog.Ending
import StoryCatalog.Proofs.Catalog.Processed
import StoryCatalog.Proofs.Catalog.Reproducible
import StoryCatalog.Proofs.Chain.Agreement
import StoryCatalog.Proofs.Chain.Coverage
import StoryCatalog.Proofs.Chain.Derivation
import StoryCatalog.Proofs.Chain.Links
import StoryCatalog.Proofs.Chain.MethodName
import StoryCatalog.Proofs.Chain.Recording
import StoryCatalog.Proofs.Chain.Reference
import StoryCatalog.Proofs.CommandLine.SettingsFile
import StoryCatalog.Proofs.Contract.Framing
import StoryCatalog.Proofs.Contract.Version
import StoryCatalog.Proofs.Json.Canonical
import StoryCatalog.Proofs.Report.Window
import StoryCatalog.Proofs.Scan.Excluded
import StoryCatalog.Proofs.Scan.Nested
import StoryCatalog.Proofs.Syntax.FirstFault
import StoryCatalog.Proofs.Text.Words
import StoryCatalog.Proofs.Chain.Apart
import StoryCatalog.Proofs.Contract.StoryId
