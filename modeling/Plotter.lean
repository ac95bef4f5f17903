import Plotter.Action
import Plotter.Action.Block
import Plotter.Action.Execute
import Plotter.Action.Script
import Plotter.Arithmetic
import Plotter.Batch
import Plotter.BlockKind
import Plotter.Canvas.Picture
import Plotter.Canvas.Recording
import Plotter.Command
import Plotter.Command.Form
import Plotter.CommandLine.Arguments
import Plotter.CommandLine.LogText
import Plotter.CommandLine.Program
import Plotter.Condition
import Plotter.Decimal.Shortest
import Plotter.Drawing
import Plotter.Effect
import Plotter.Error
import Plotter.Event
import Plotter.Main
import Plotter.Number
import Plotter.Operand
import Plotter.Operator
import Plotter.Proofs.Account
import Plotter.Proofs.Advice
import Plotter.Proofs.Alike
import Plotter.Proofs.Arithmetic
import Plotter.Proofs.Blank
import Plotter.Proofs.Comparison
import Plotter.Proofs.Concatenation
import Plotter.Proofs.Conduct
import Plotter.Proofs.Counting
import Plotter.Proofs.Coupling
import Plotter.Proofs.Delivery
import Plotter.Proofs.Effect
import Plotter.Proofs.Erasure
import Plotter.Proofs.Execute
import Plotter.Proofs.Failure
import Plotter.Proofs.FileLines
import Plotter.Proofs.Forms
import Plotter.Proofs.Frame
import Plotter.Proofs.Fuel
import Plotter.Proofs.Geometry
import Plotter.Proofs.Grammar
import Plotter.Proofs.History
import Plotter.Proofs.Hoisting
import Plotter.Proofs.Identifier
import Plotter.Proofs.Items
import Plotter.Proofs.LastWrite
import Plotter.Proofs.Layout
import Plotter.Proofs.LineEnds
import Plotter.Proofs.LineJoin
import Plotter.Proofs.Lines
import Plotter.Proofs.Localization
import Plotter.Proofs.Log
import Plotter.Proofs.Looks
import Plotter.Proofs.Loop
import Plotter.Proofs.LoopLimit
import Plotter.Proofs.Markup
import Plotter.Proofs.Mention
import Plotter.Proofs.Moves
import Plotter.Proofs.Munch
import Plotter.Proofs.Outcome
import Plotter.Proofs.Padding
import Plotter.Proofs.Parts
import Plotter.Proofs.Pass
import Plotter.Proofs.Picture
import Plotter.Proofs.Precedence
import Plotter.Proofs.Reachable
import Plotter.Proofs.Readers
import Plotter.Proofs.Recognition
import Plotter.Proofs.Renumber
import Plotter.Proofs.Reprint
import Plotter.Proofs.Request
import Plotter.Proofs.Resolvable
import Plotter.Proofs.Resolve
import Plotter.Proofs.RoundTrip
import Plotter.Proofs.Scan
import Plotter.Proofs.ShapeMarkup
import Plotter.Proofs.Stepwise
import Plotter.Proofs.Store
import Plotter.Proofs.Tokens
import Plotter.Proofs.Unreachable
import Plotter.Proofs.Warnings
import Plotter.Scan
import Plotter.Script
import Plotter.Session
import Plotter.Settings
import Plotter.Svg.Path
import Plotter.Svg.Shape
import Plotter.Text.Blank
import Plotter.Text.CaseIgnorable
import Plotter.Text.CaseRuns
import Plotter.Text.Cased
import Plotter.Text.GraphemeExtend
import Plotter.Text.Lowercase
import Plotter.Text.Quoted
import Plotter.Text.Unprintable
import Plotter.Variables
