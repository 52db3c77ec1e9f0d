import StillMotion.Analysis.Backend
import StillMotion.Analysis.Fallback
import StillMotion.Analysis.Normalize
import StillMotion.Analysis.Registry
import StillMotion.Analysis.Vision
import StillMotion.Analysis.VisualSchema
import StillMotion.Artifact.Naming
import StillMotion.Artifact.Version
import StillMotion.Catalogue
import StillMotion.Cli.Command
import StillMotion.Cli.Run
import StillMotion.Config.Basic
import StillMotion.Config.Load
import StillMotion.Console.Action
import StillMotion.Console.Columns
import StillMotion.Console.Emoji
import StillMotion.Console.EmojiNames
import StillMotion.Console.Markup
import StillMotion.Console.Style
import StillMotion.Console.Table
import StillMotion.Console.Terminal
import StillMotion.Data.Codec
import StillMotion.Data.Issue
import StillMotion.Data.Json.Reader
import StillMotion.Data.Json.Writer
import StillMotion.Data.JsonSchema
import StillMotion.Data.Misfit
import StillMotion.Data.Operation
import StillMotion.Data.Ordering
import StillMotion.Data.Record
import StillMotion.Data.Shown
import StillMotion.Data.Toml.Document
import StillMotion.Data.Toml.Reader
import StillMotion.Data.Value
import StillMotion.Digest.Base64
import StillMotion.Digest.Sha256
import StillMotion.Direction.Director
import StillMotion.Direction.Duration
import StillMotion.Direction.GivenPolicy
import StillMotion.Direction.Policy
import StillMotion.Direction.PolicyTable
import StillMotion.Direction.Prompt
import StillMotion.Document.Cursor
import StillMotion.Document.Lexer
import StillMotion.Document.Meaning
import StillMotion.Document.Node
import StillMotion.Document.Read
import StillMotion.Document.Resolve
import StillMotion.Document.ScalarText
import StillMotion.Document.Token
import StillMotion.Draft
import StillMotion.Failure.Category
import StillMotion.Failure.Fault
import StillMotion.Failure.Report
import StillMotion.Files.MediaType
import StillMotion.Files.Path
import StillMotion.Files.Tree
import StillMotion.Files.Workspace
import StillMotion.Instruction.Access
import StillMotion.Instruction.Analysis
import StillMotion.Instruction.Check
import StillMotion.Instruction.Datum
import StillMotion.Instruction.Fill
import StillMotion.Instruction.Filter
import StillMotion.Instruction.Formatting
import StillMotion.Instruction.Given
import StillMotion.Instruction.Lexer
import StillMotion.Instruction.Links
import StillMotion.Instruction.Method
import StillMotion.Instruction.Reader
import StillMotion.Instruction.Spread
import StillMotion.Instruction.Template
import StillMotion.Instruction.TemplateFault
import StillMotion.Instruction.Wrapping
import StillMotion.Main
import StillMotion.Number.Binary
import StillMotion.Number.Notation
import StillMotion.Number.Numeral
import StillMotion.Number.Scalar
import StillMotion.Number.Shortest
import StillMotion.Pipeline.Basic
import StillMotion.Pipeline.Course
import StillMotion.Pipeline.Live
import StillMotion.Pipeline.Service
import StillMotion.Pipeline.Settings
import StillMotion.Proofs.Analysis.Addressing
import StillMotion.Proofs.Analysis.EmbeddedObject
import StillMotion.Proofs.Analysis.Examination
import StillMotion.Proofs.Analysis.History
import StillMotion.Proofs.Analysis.Listing
import StillMotion.Proofs.Analysis.Resolution
import StillMotion.Proofs.Analysis.Stability
import StillMotion.Proofs.Analysis.Usable
import StillMotion.Proofs.Cli.Refusal
import StillMotion.Proofs.Cli.Telling
import StillMotion.Proofs.Config.Accepted
import StillMotion.Proofs.Config.Discovery
import StillMotion.Proofs.Config.Loading
import StillMotion.Proofs.Config.Search
import StillMotion.Proofs.Console.Markup
import StillMotion.Proofs.Data.JsonGrammar
import StillMotion.Proofs.Data.JsonText
import StillMotion.Proofs.Data.Likeness
import StillMotion.Proofs.Data.Ordering
import StillMotion.Proofs.Data.Outcome
import StillMotion.Proofs.Data.RoundTrip
import StillMotion.Proofs.Direction.Dependence
import StillMotion.Proofs.Direction.Extent
import StillMotion.Proofs.Direction.Mention
import StillMotion.Proofs.Document.ReadBack
import StillMotion.Proofs.Failure.Attribution
import StillMotion.Proofs.Files.Act
import StillMotion.Proofs.Number.Order
import StillMotion.Proofs.Number.Rounding
import StillMotion.Proofs.Pipeline.Answer
import StillMotion.Proofs.Pipeline.Attempts
import StillMotion.Proofs.Pipeline.Production
import StillMotion.Proofs.Pipeline.Recording
import StillMotion.Proofs.Pipeline.Retry
import StillMotion.Proofs.Pipeline.Sequence
import StillMotion.Proofs.Pipeline.Tally
import StillMotion.Proofs.Render.Command
import StillMotion.Proofs.Render.LogTail
import StillMotion.Proofs.Scene.Bakeable
import StillMotion.Proofs.Scene.Baking
import StillMotion.Proofs.Scene.Bracketing
import StillMotion.Proofs.Scene.Camera
import StillMotion.Proofs.Scene.Interpolation
import StillMotion.Proofs.Scene.Ramp
import StillMotion.Proofs.Scene.Reading
import StillMotion.Proofs.Timeline.Identity
import StillMotion.Proofs.Timeline.Interchange
import StillMotion.Proofs.Timeline.Violations
import StillMotion.Render.CommandRenderer
import StillMotion.Render.Outcome
import StillMotion.Render.Renderer
import StillMotion.Render.Run
import StillMotion.Scene.CameraState
import StillMotion.Scene.Composition
import StillMotion.Scene.EffectStyle
import StillMotion.Scene.Frame
import StillMotion.Scene.Identity
import StillMotion.Scene.Pace
import StillMotion.Scene.Style
import StillMotion.Scripting.Arithmetic
import StillMotion.Scripting.BuiltIn
import StillMotion.Scripting.CommandReader
import StillMotion.Scripting.Condition
import StillMotion.Scripting.Editing
import StillMotion.Scripting.Escape
import StillMotion.Scripting.Expression
import StillMotion.Scripting.Field
import StillMotion.Scripting.FilePrograms
import StillMotion.Scripting.Format
import StillMotion.Scripting.Interpreter
import StillMotion.Scripting.Launch
import StillMotion.Scripting.LinePrograms
import StillMotion.Scripting.Options
import StillMotion.Scripting.Pattern
import StillMotion.Scripting.Programs
import StillMotion.Scripting.Script
import StillMotion.Scripting.ScriptReader
import StillMotion.Scripting.Search
import StillMotion.Scripting.Shell
import StillMotion.Scripting.Signal
import StillMotion.Scripting.TextPrograms
import StillMotion.Scripting.Token
import StillMotion.Text.Blank
import StillMotion.Text.Case
import StillMotion.Text.Code
import StillMotion.Text.Digit
import StillMotion.Text.Quoted
import StillMotion.Text.Search
import StillMotion.Text.Utf8
import StillMotion.Text.Visible
import StillMotion.Timeline.Basic
import StillMotion.Timeline.Draft
import StillMotion.Timeline.Format
import StillMotion.Timeline.Session
import StillMotion.Timeline.Validation
