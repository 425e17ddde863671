import TemplateBundler.Bundle.Module
import TemplateBundler.ContentId
import TemplateBundler.ContentId.Sha512
import TemplateBundler.Data.Access
import TemplateBundler.Data.Folding
import TemplateBundler.Data.Pointing
import TemplateBundler.Data.Scope
import TemplateBundler.Dependencies
import TemplateBundler.Entries
import TemplateBundler.Failure
import TemplateBundler.Files.DataFile
import TemplateBundler.Files.Discovery
import TemplateBundler.Files.Tree
import TemplateBundler.Json.Basic
import TemplateBundler.Json.Draft
import TemplateBundler.Json.Lexeme
import TemplateBundler.Json.Literal
import TemplateBundler.Json.Printer
import TemplateBundler.Json.Reader
import TemplateBundler.Namespaces
import TemplateBundler.Number.Binary64
import TemplateBundler.Number.FloatText
import TemplateBundler.Number.Integer
import TemplateBundler.Number.Shortest
import TemplateBundler.Options.Basic
import TemplateBundler.Options.File
import TemplateBundler.Options.JsonText
import TemplateBundler.Options.TomlText
import TemplateBundler.Options.YamlText
import TemplateBundler.Path.Basic
import TemplateBundler.Path.Resolve
import TemplateBundler.Template.Expr
import TemplateBundler.Template.Kind
import TemplateBundler.Template.Token
import TemplateBundler.Template.Walk
import TemplateBundler.Text.Blank
import TemplateBundler.Text.Printable
import TemplateBundler.Text.Quoted
import TemplateBundler.Text.Search
import TemplateBundler.Toml.Lexical
import TemplateBundler.Toml.Moment
import TemplateBundler.Toml.Reader
import TemplateBundler.Toml.Table
import TemplateBundler.Workspace
import TemplateBundler.Yaml.Cursor
import TemplateBundler.Yaml.Document
import TemplateBundler.Yaml.Lexeme
import TemplateBundler.Yaml.Node
import TemplateBundler.Yaml.Scalar
import TemplateBundler.Yaml.Tag
import TemplateBundler.Yaml.Value
import TemplateBundler.Proofs.Bundle.Declarations
import TemplateBundler.Proofs.Bundle.StaticTemplate
import TemplateBundler.Proofs.Data.Concatenation
import TemplateBundler.Proofs.Data.DottedRead
import TemplateBundler.Proofs.Data.Obstacles
import TemplateBundler.Proofs.Data.Operands
import TemplateBundler.Proofs.Data.Pieces
import TemplateBundler.Proofs.Data.Pointing
import TemplateBundler.Proofs.Data.PrefixedField
import TemplateBundler.Proofs.Data.Slicing
import TemplateBundler.Proofs.Data.TextBounds
import TemplateBundler.Proofs.Dependencies
import TemplateBundler.Proofs.Entries
import TemplateBundler.Proofs.Files.Backtracking
import TemplateBundler.Proofs.Files.DataFile
import TemplateBundler.Proofs.Files.Descent
import TemplateBundler.Proofs.Files.Discovery
import TemplateBundler.Proofs.Files.Following
import TemplateBundler.Proofs.Files.Union
import TemplateBundler.Proofs.Gather
import TemplateBundler.Proofs.Json.Collapse
import TemplateBundler.Proofs.Namespaces.Junction
import TemplateBundler.Proofs.Namespaces.Resolution
import TemplateBundler.Proofs.Namespaces.Spellings
import TemplateBundler.Proofs.Number.DecimalText
import TemplateBundler.Proofs.Options.Merging
import TemplateBundler.Proofs.Path.Components
import TemplateBundler.Proofs.Path.Composition
import TemplateBundler.Proofs.Path.Reduction
import TemplateBundler.Proofs.Template.Fields
import TemplateBundler.Proofs.Template.RoundTrip
import TemplateBundler.Proofs.Walk.Closed
import TemplateBundler.Proofs.Walk.Directories
import TemplateBundler.Proofs.Walk.Events
import TemplateBundler.Proofs.Walk.Frame
import TemplateBundler.Proofs.Walk.Identifiers
import TemplateBundler.Proofs.Walk.Mentioned
