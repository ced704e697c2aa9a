import DesignTokens.Catalog.Basic
import DesignTokens.Main
import DesignTokens.Options.Decoding
import DesignTokens.Proofs.Reference.Graph
import DesignTokens.Proofs.Reference.Denotation
import DesignTokens.Proofs.Reference.Walk
import DesignTokens.Proofs.Reference.Resolution
import DesignTokens.Proofs.Reference.Substitution
import DesignTokens.Proofs.Reference.Cycles
import DesignTokens.Proofs.Reference.Order
import DesignTokens.Proofs.Document.Node
import DesignTokens.Proofs.Document.Search
import DesignTokens.Proofs.Document.Topmost
import DesignTokens.Proofs.Document.DtcgTokens
import DesignTokens.Proofs.Document.Detection
import DesignTokens.Proofs.Entries
import DesignTokens.Proofs.Tree.DepthFirst
import DesignTokens.Proofs.Tree.Placement
import DesignTokens.Proofs.Document.Groups
import DesignTokens.Proofs.Stylesheet.Outline
import DesignTokens.Proofs.Stylesheet.Tokens
import DesignTokens.Proofs.Catalog.Session
import DesignTokens.Proofs.Catalog.Uncached
import DesignTokens.Proofs.Catalog.Cache
import DesignTokens.Proofs.Document.Reading
import DesignTokens.Proofs.Catalog.Failing
import DesignTokens.Proofs.Catalog.Naming
import DesignTokens.Proofs.Catalog.Lookup
import DesignTokens.Proofs.Document.FieldOrder
import DesignTokens.Proofs.Document.ReorderedTokens
import DesignTokens.Proofs.Stylesheet.FieldOrder
import DesignTokens.Proofs.CommandLine.Requests
import DesignTokens.Proofs.Document.StudioTokens
import DesignTokens.Proofs.Tree.LastWrite
import DesignTokens.Proofs.Catalog.Registering
import DesignTokens.Proofs.Tree.Grafting
import DesignTokens.Proofs.Identifier.Characters
import DesignTokens.Proofs.Stylesheet.Composite
import DesignTokens.Proofs.Identifier.VariableName
import DesignTokens.Proofs.Stylesheet.Unambiguous
import DesignTokens.Proofs.Stylesheet.Quotation
import DesignTokens.Proofs.Stylesheet.Declarations
import DesignTokens.Proofs.Identifier.NormalForm
import DesignTokens.Proofs.Identifier.JoinedPath
import DesignTokens.Proofs.Document.Metadata
import DesignTokens.Proofs.Text.Join
import DesignTokens.Proofs.Identifier.MapKey
import DesignTokens.Proofs.Document.TokenValues
import DesignTokens.Proofs.Stylesheet.MapKeys
import DesignTokens.Proofs.Files.Extension
import DesignTokens.Proofs.Catalog.Encodings
import DesignTokens.Proofs.Stylesheet.Concatenation
import DesignTokens.Proofs.Number.Numeral
import DesignTokens.Proofs.Stylesheet.Nesting
import DesignTokens.Proofs.Number.Grid
import DesignTokens.Proofs.Number.PlainText
