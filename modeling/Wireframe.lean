import Wireframe.Animation.Assembly
import Wireframe.Animation.Frames
import Wireframe.Animation.Plan
import Wireframe.Axis
import Wireframe.Color
import Wireframe.CommandLine
import Wireframe.CommandLine.Arguments
import Wireframe.Config
import Wireframe.Decimal.Binary64
import Wireframe.Decimal.Layout
import Wireframe.Decimal.Reading
import Wireframe.Decimal.Shortest
import Wireframe.Decimal.Single
import Wireframe.Dict
import Wireframe.Document.Calendar
import Wireframe.Document.Conversion
import Wireframe.Document.Json
import Wireframe.Document.Members
import Wireframe.Document.Same
import Wireframe.Document.Value
import Wireframe.Document.Yaml
import Wireframe.Document.Yaml.Basic
import Wireframe.Document.Yaml.Block
import Wireframe.Document.Yaml.Heap
import Wireframe.Document.Yaml.Lexer
import Wireframe.Document.Yaml.Meaning
import Wireframe.Document.Yaml.Node
import Wireframe.Document.Yaml.Parser
import Wireframe.Document.Yaml.Plain
import Wireframe.Document.Yaml.Quoted
import Wireframe.Document.Yaml.Scalar
import Wireframe.Document.Yaml.Tag
import Wireframe.Document.Yaml.Timestamp
import Wireframe.Document.Yaml.Token
import Wireframe.Environment
import Wireframe.Error
import Wireframe.Files
import Wireframe.Geometry
import Wireframe.Log
import Wireframe.Machine
import Wireframe.Main
import Wireframe.Matrix
import Wireframe.Opcode.Basic
import Wireframe.Opcode.Describe
import Wireframe.Opcode.Keyword
import Wireframe.Opcode.Parse
import Wireframe.Options
import Wireframe.Path
import Wireframe.Picture
import Wireframe.Picture.Encoding
import Wireframe.Picture.Jpeg
import Wireframe.Picture.Keeping
import Wireframe.Picture.Webp
import Wireframe.Power
import Wireframe.Program
import Wireframe.Proofs.Affine
import Wireframe.Proofs.Alike
import Wireframe.Proofs.Animation.Collected
import Wireframe.Proofs.Animation.FrameNames
import Wireframe.Proofs.Basic
import Wireframe.Proofs.Color.Hex
import Wireframe.Proofs.Color.Range
import Wireframe.Proofs.Color.Reread
import Wireframe.Proofs.Color.Sequence
import Wireframe.Proofs.Color.Share
import Wireframe.Proofs.Decimal.Hex
import Wireframe.Proofs.Decimal.Magnitude
import Wireframe.Proofs.Decimal.Nearest
import Wireframe.Proofs.Decimal.Order
import Wireframe.Proofs.Decimal.Ratio
import Wireframe.Proofs.Decimal.Rounding
import Wireframe.Proofs.Decimal.Value
import Wireframe.Proofs.Decimal.Whole
import Wireframe.Proofs.Declaration
import Wireframe.Proofs.DeclarationOrder
import Wireframe.Proofs.Dict
import Wireframe.Proofs.Document.Atoms
import Wireframe.Proofs.Document.Labels
import Wireframe.Proofs.Exact
import Wireframe.Proofs.Failure
import Wireframe.Proofs.Files
import Wireframe.Proofs.Geometry.Concat
import Wireframe.Proofs.Geometry.Joined
import Wireframe.Proofs.Geometry.Lines
import Wireframe.Proofs.Geometry.Pieces
import Wireframe.Proofs.Geometry.Sound
import Wireframe.Proofs.InPlace
import Wireframe.Proofs.Interleaving
import Wireframe.Proofs.Opcode.Describe
import Wireframe.Proofs.Opcode.Failure
import Wireframe.Proofs.Opcode.Keyword
import Wireframe.Proofs.Opcode.Reading
import Wireframe.Proofs.Opcode.Writing
import Wireframe.Proofs.Path
import Wireframe.Proofs.Picture.Saving
import Wireframe.Proofs.Projective
import Wireframe.Proofs.Raster.Accuracy
import Wireframe.Proofs.Raster.Clip
import Wireframe.Proofs.Raster.Clipped
import Wireframe.Proofs.Raster.Draw
import Wireframe.Proofs.Raster.InPlace
import Wireframe.Proofs.Raster.Overflow
import Wireframe.Proofs.Raster.Paint
import Wireframe.Proofs.Raster.Range
import Wireframe.Proofs.Raster.Traversal
import Wireframe.Proofs.Raster.Union
import Wireframe.Proofs.Raster.Walk
import Wireframe.Proofs.Registry
import Wireframe.Proofs.Reordered
import Wireframe.Proofs.Run.Effects
import Wireframe.Proofs.Run.Frame
import Wireframe.Proofs.Run.FrameFiles
import Wireframe.Proofs.Run.History
import Wireframe.Proofs.Run.Independence
import Wireframe.Proofs.Run.Interleaving
import Wireframe.Proofs.Run.LastWrite
import Wireframe.Proofs.Run.Parts
import Wireframe.Proofs.Run.Placement
import Wireframe.Proofs.Run.Position
import Wireframe.Proofs.Run.Resolution
import Wireframe.Proofs.Run.Saved
import Wireframe.Proofs.Run.Scope
import Wireframe.Proofs.Run.Stopping
import Wireframe.Proofs.Scope
import Wireframe.Proofs.Screen
import Wireframe.Proofs.Solid.Box
import Wireframe.Proofs.Solid.Grid
import Wireframe.Proofs.Solid.Round
import Wireframe.Proofs.Solid.Surface
import Wireframe.Proofs.Stack
import Wireframe.Proofs.Symbols
import Wireframe.Proofs.Symbols.Atomicity
import Wireframe.Proofs.Symbols.History
import Wireframe.Proofs.Symbols.Operation
import Wireframe.Proofs.Tensor
import Wireframe.Proofs.Text.NormalForm
import Wireframe.Proofs.Text.Snake
import Wireframe.Proofs.Timeline
import Wireframe.Proofs.Timeline.Outcome
import Wireframe.Proofs.Timeline.Values
import Wireframe.Raster.Clip
import Wireframe.Raster.Draw
import Wireframe.Raster.Walk
import Wireframe.Registry
import Wireframe.Run
import Wireframe.Run.Action
import Wireframe.Run.Note
import Wireframe.Run.Outside
import Wireframe.Run.Preparation
import Wireframe.Run.Studio
import Wireframe.Scalar
import Wireframe.Screen
import Wireframe.Solid.Box
import Wireframe.Solid.Catalog
import Wireframe.Solid.Grid
import Wireframe.Solid.Sphere
import Wireframe.Solid.Torus
import Wireframe.Stack
import Wireframe.Symbols
import Wireframe.Tensor
import Wireframe.Tensor.Mixed
import Wireframe.Tensor.Reading
import Wireframe.Text.Base64
import Wireframe.Text.Blank
import Wireframe.Text.Case
import Wireframe.Text.CaseTable
import Wireframe.Text.Digit
import Wireframe.Text.Half
import Wireframe.Text.Printable
import Wireframe.Text.Quoted
import Wireframe.Text.Ranges
import Wireframe.Text.Snake
import Wireframe.Vec3
