import DeclExport.Main
import DeclExport.Proofs.Export.Building
import DeclExport.Proofs.Export.Document
import DeclExport.Proofs.Layout.Splicing
import DeclExport.Proofs.Term.Decl
import DeclExport.Proofs.Text.Token
import DeclExport.Proofs.Layout.Phrase
import DeclExport.Proofs.Term.Inscriptions
import DeclExport.Proofs.Export.Blocks
import DeclExport.Proofs.Export.Tokens
import DeclExport.Proofs.Export.Capacity
import DeclExport.Proofs.Export.Selection
import DeclExport.Proofs.Source.Interchange
import DeclExport.Proofs.Source.Unknown
import DeclExport.Proofs.Export.Locality
import DeclExport.Proofs.Export.Renumbering
import DeclExport.Proofs.Command.Paths
import DeclExport.Proofs.Command.Delivery
import DeclExport.Proofs.Layout.Lines
import DeclExport.Proofs.Layout.Scopes
import DeclExport.Proofs.Source.Respelling
import DeclExport.Proofs.Export.Scopes
import DeclExport.Proofs.Selection.Formula
import DeclExport.Proofs.Annotation.Writing
import DeclExport.Proofs.Layout.Padding
import DeclExport.Proofs.Export.Paragraphs
import DeclExport.Proofs.Selection.Tightening
import DeclExport.Proofs.Export.Tightening
import DeclExport.Proofs.Export.Insertion
import DeclExport.Proofs.Annotation.History
import DeclExport.Proofs.Annotation.Fragments
import DeclExport.Proofs.Selection.Reporting
import DeclExport.Proofs.Export.Reports
import DeclExport.Proofs.Export.Accounting
