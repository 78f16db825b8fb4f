import ShadeBake.Artifact
import ShadeBake.Bake
import ShadeBake.Binary.Basic
import ShadeBake.Binary.Reader
import ShadeBake.Binary.Shortest
import ShadeBake.Binary.Written
import ShadeBake.CommandLine
import ShadeBake.Compile.ArtifactPath
import ShadeBake.Compile.Compiler
import ShadeBake.Compile.Error
import ShadeBake.Compile.External
import ShadeBake.Configuration
import ShadeBake.Conversion.Basic
import ShadeBake.Conversion.Gather
import ShadeBake.Conversion.Prune
import ShadeBake.Definition.Basic
import ShadeBake.Definition.Entity
import ShadeBake.Definition.Library
import ShadeBake.Definition.Markup
import ShadeBake.Dict
import ShadeBake.Dict.Lemmas
import ShadeBake.Document.Basic
import ShadeBake.Document.Build
import ShadeBake.Document.ChildName
import ShadeBake.Document.Description
import ShadeBake.FileTree
import ShadeBake.Filter
import ShadeBake.Json.Basic
import ShadeBake.Json.Numeral
import ShadeBake.Json.Reader
import ShadeBake.Json.Tree
import ShadeBake.Json.Writer
import ShadeBake.Main
import ShadeBake.Network.Basic
import ShadeBake.Network.File
import ShadeBake.Network.Form
import ShadeBake.Network.NodePath
import ShadeBake.Path
import ShadeBake.Proofs.Artifact
import ShadeBake.Proofs.Bake.Bindings
import ShadeBake.Proofs.Bake.Closure
import ShadeBake.Proofs.Bake.Complete
import ShadeBake.Proofs.Bake.Dangling
import ShadeBake.Proofs.Bake.Frame
import ShadeBake.Proofs.Bake.Generation
import ShadeBake.Proofs.Bake.Preview
import ShadeBake.Proofs.Bake.Repeat
import ShadeBake.Proofs.Bake.RoundTrip
import ShadeBake.Proofs.Bake.Run
import ShadeBake.Proofs.Bake.Standard
import ShadeBake.Proofs.Bake.Transform
import ShadeBake.Proofs.Binary.Numeral
import ShadeBake.Proofs.Conversion.Answers
import ShadeBake.Proofs.Conversion.Binding
import ShadeBake.Proofs.Conversion.Books
import ShadeBake.Proofs.Conversion.Coverage
import ShadeBake.Proofs.Conversion.Effect
import ShadeBake.Proofs.Conversion.Expendable
import ShadeBake.Proofs.Conversion.Gathering
import ShadeBake.Proofs.Conversion.Outcome
import ShadeBake.Proofs.Conversion.Outputs
import ShadeBake.Proofs.Conversion.Placement
import ShadeBake.Proofs.Conversion.Provenance
import ShadeBake.Proofs.Conversion.Pruning
import ShadeBake.Proofs.Conversion.Reordering
import ShadeBake.Proofs.Conversion.Requests
import ShadeBake.Proofs.Conversion.Rewiring
import ShadeBake.Proofs.Conversion.Sequence
import ShadeBake.Proofs.Conversion.Slots
import ShadeBake.Proofs.Conversion.Survival
import ShadeBake.Proofs.Conversion.Transition
import ShadeBake.Proofs.Conversion.Unnamed
import ShadeBake.Proofs.Definition.Comment
import ShadeBake.Proofs.Definition.Declaration
import ShadeBake.Proofs.Definition.Entity
import ShadeBake.Proofs.Definition.Library
import ShadeBake.Proofs.Definition.Listing
import ShadeBake.Proofs.Definition.Markup
import ShadeBake.Proofs.Definition.Piece
import ShadeBake.Proofs.Document.Build
import ShadeBake.Proofs.Document.Correspondence
import ShadeBake.Proofs.Document.FreshName
import ShadeBake.Proofs.Document.Inputs
import ShadeBake.Proofs.Document.Locate
import ShadeBake.Proofs.Document.Lookup
import ShadeBake.Proofs.Document.Mirror
import ShadeBake.Proofs.Document.Naming
import ShadeBake.Proofs.Document.Node
import ShadeBake.Proofs.Document.Rerouting
import ShadeBake.Proofs.Document.Resolve
import ShadeBake.Proofs.Document.Routing
import ShadeBake.Proofs.Document.RoutingEffect
import ShadeBake.Proofs.Document.Soundness
import ShadeBake.Proofs.Document.Splicing
import ShadeBake.Proofs.Document.TextureFile
import ShadeBake.Proofs.Document.TextureNode
import ShadeBake.Proofs.Document.WellFormed
import ShadeBake.Proofs.Json.Record
import ShadeBake.Proofs.Json.Value
import ShadeBake.Proofs.Network.Form
import ShadeBake.Proofs.Network.Reach
import ShadeBake.Proofs.Network.Update
import ShadeBake.Proofs.Network.WellFormed
import ShadeBake.Proofs.Registry.Bundled
import ShadeBake.Proofs.Registry.History
import ShadeBake.Proofs.Registry.Register
import ShadeBake.Proofs.Registry.Regular
import ShadeBake.Proofs.Shader.Arguments
import ShadeBake.Proofs.Shader.Arity
import ShadeBake.Proofs.Shader.Calls
import ShadeBake.Proofs.Shader.Declarations
import ShadeBake.Proofs.Shader.Emptied
import ShadeBake.Proofs.Shader.Fidelity
import ShadeBake.Proofs.Shader.Literals
import ShadeBake.Proofs.Shader.Locality
import ShadeBake.Proofs.Shader.Order
import ShadeBake.Proofs.Shader.Outputs
import ShadeBake.Proofs.Shader.Quotation
import ShadeBake.Proofs.Shader.Source
import ShadeBake.Proofs.Shader.Totality
import ShadeBake.Proofs.Shader.Traversal
import ShadeBake.Proofs.Shader.Variables
import ShadeBake.Proofs.Success
import ShadeBake.Proofs.Text.Pieces
import ShadeBake.Proofs.Text.Search
import ShadeBake.Reach
import ShadeBake.Registry.Basic
import ShadeBake.Registry.Bundled
import ShadeBake.Registry.Entry
import ShadeBake.Registry.Form
import ShadeBake.Resolver
import ShadeBake.Shader.Constant
import ShadeBake.Shader.Emit
import ShadeBake.Shader.Error
import ShadeBake.Shader.Generate
import ShadeBake.Shader.Order
import ShadeBake.Shader.Program
import ShadeBake.Shader.Quoted
import ShadeBake.Shader.Type
import ShadeBake.Terminal
import ShadeBake.Text.Blank
import ShadeBake.Text.Printable
import ShadeBake.Text.Search
import ShadeBake.Texture
import ShadeBake.Warning
import ShadeBake.WrapMode
