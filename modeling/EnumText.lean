import EnumText.Command
import EnumText.Main
import EnumText.Proofs.Casing.Converting
import EnumText.Proofs.Casing.Splitting
import EnumText.Proofs.Command.Overriding
import EnumText.Proofs.Declaration.Embedding
import EnumText.Proofs.Declaration.Loops.Balance
import EnumText.Proofs.Declaration.Runs
import EnumText.Proofs.Declaration.Structs
import EnumText.Proofs.Declaration.WrittenLiterals
import EnumText.Proofs.Directive.Accounting
import EnumText.Proofs.Directive.Arguments
import EnumText.Proofs.Directive.Naming
import EnumText.Proofs.Directive.RoundTrip
import EnumText.Proofs.Enumeration.Collisions
import EnumText.Proofs.Enumeration.Decoding
import EnumText.Proofs.Enumeration.Keys
import EnumText.Proofs.Enumeration.Reading
import EnumText.Proofs.Enumeration.Shape
import EnumText.Proofs.Generation.Causes
import EnumText.Proofs.Generation.Declaring
import EnumText.Proofs.Generation.Fieldless
import EnumText.Proofs.Generation.Refusals
import EnumText.Proofs.Generation.Regeneration
import EnumText.Proofs.Generation.Repeating
import EnumText.Proofs.Generation.Resolving
import EnumText.Proofs.Generation.Strays
import EnumText.Proofs.Generation.Writing
import EnumText.Proofs.Listing.DocRuns
import EnumText.Proofs.Listing.Faults
import EnumText.Proofs.Listing.Literals
import EnumText.Proofs.Listing.Semicolons
import EnumText.Proofs.Listing.Tiling
import EnumText.Proofs.Literal.Requoting
import EnumText.Proofs.Package.Declared
import EnumText.Proofs.Package.Determined
import EnumText.Proofs.Package.Scanning
import EnumText.Proofs.SourceFile.Joining
import EnumText.Proofs.SourceFile.Returns
import EnumText.Proofs.SourceFile.Snippets
import EnumText.Proofs.SourceFile.StructSpecs
import EnumText.Proofs.SourceFile.TypeDocs
import EnumText.Proofs.SourceFile.VariableSpecs
