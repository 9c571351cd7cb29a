import AsmLens.Main
import AsmLens.Proofs.Command.Position
import AsmLens.Proofs.Command.Queries
import AsmLens.Proofs.Document.Listing
import AsmLens.Proofs.Document.Names
import AsmLens.Proofs.Document.Reports
import AsmLens.Proofs.Hover.Bounds
import AsmLens.Proofs.Line.Ascii
import AsmLens.Proofs.Line.Comments
import AsmLens.Proofs.Line.Indentation
import AsmLens.Proofs.Line.Mnemonic
import AsmLens.Proofs.Line.Registers
import AsmLens.Proofs.Span.Columns
