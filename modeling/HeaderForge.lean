import HeaderForge.Cursor.Step
import HeaderForge.Logging
import HeaderForge.Main
import HeaderForge.Proofs.Checked.Header
import HeaderForge.Proofs.Declaration.Conservation
import HeaderForge.Proofs.Declaration.RoundTrip
import HeaderForge.Proofs.Header.Concatenation
import HeaderForge.Proofs.Header.Reparsing
import HeaderForge.Proofs.Header.Segmentation
import HeaderForge.Proofs.Header.Trimming
import HeaderForge.Proofs.Render.Json
import HeaderForge.Proofs.Render.Signatures
import HeaderForge.Proofs.Files.Regeneration
import HeaderForge.Proofs.Stub.Declarations
import HeaderForge.Proofs.Declaration.Layout
import HeaderForge.Proofs.Command.Arguments
import HeaderForge.Proofs.Command.Generate
import HeaderForge.Proofs.Path.Order
import HeaderForge.Proofs.FileTree.Spelling
import HeaderForge.Proofs.Command.Selection
import HeaderForge.Proofs.Command.Extract
import HeaderForge.Proofs.Header.Filtering
import HeaderForge.Proofs.Template.Conservation
import HeaderForge.Proofs.Template.RoundTrip
import HeaderForge.Proofs.Bracket.Pairing
import HeaderForge.Proofs.Cursor.Separation
import HeaderForge.Proofs.Bracket.Grammar
import HeaderForge.Proofs.Catalog.Validation
import HeaderForge.Proofs.Path.Containment
import HeaderForge.Proofs.Declaration.Words
import HeaderForge.Proofs.Stub.Indentation
import HeaderForge.Proofs.Cursor.Discipline
import HeaderForge.Proofs.Declaration.Shape
import HeaderForge.Proofs.Bracket.Partner
import HeaderForge.Proofs.Stub.Balance
