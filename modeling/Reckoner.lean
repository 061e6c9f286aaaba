import Reckoner.CommandLine.Command
import Reckoner.CommandLine.Run
import Reckoner.CommandLine.Switches
import Reckoner.Console.Colour
import Reckoner.Console.Literal
import Reckoner.Console.Markup
import Reckoner.Console.Style
import Reckoner.Console.Table
import Reckoner.Console.Wrap
import Reckoner.Data.Base64
import Reckoner.Data.Datum
import Reckoner.Data.Issue
import Reckoner.Data.Json
import Reckoner.Data.Key
import Reckoner.Data.Reading
import Reckoner.Editor.Basic
import Reckoner.Editor.Typing
import Reckoner.Emoji.Code
import Reckoner.Emoji.Face
import Reckoner.Emoji.Flag
import Reckoner.Emoji.Keycap
import Reckoner.Emoji.Name
import Reckoner.Emoji.Person
import Reckoner.Emoji.Pictograph
import Reckoner.Emoji.Sequence
import Reckoner.Emoji.Sign
import Reckoner.Emoji.Supplement
import Reckoner.Emoji.Vehicle
import Reckoner.Expression.Evaluation
import Reckoner.Expression.Failure
import Reckoner.Expression.Operator
import Reckoner.Expression.Phrase
import Reckoner.Expression.Postfix
import Reckoner.Expression.Reduction
import Reckoner.Expression.Report
import Reckoner.Expression.Scan
import Reckoner.Expression.Token
import Reckoner.Expression.Tree
import Reckoner.Log
import Reckoner.Main
import Reckoner.Number.Binary64
import Reckoner.Number.Integer
import Reckoner.Number.Numeral
import Reckoner.Number.Places
import Reckoner.Number.Positional
import Reckoner.Number.Power
import Reckoner.Number.Rounding
import Reckoner.Number.Scientific
import Reckoner.Proofs.Acceptance
import Reckoner.Proofs.Agreement
import Reckoner.Proofs.Chaining
import Reckoner.Proofs.Classification
import Reckoner.Proofs.CommandLine.Printed
import Reckoner.Proofs.Conservation
import Reckoner.Proofs.Console.Wrapping
import Reckoner.Proofs.Continuation
import Reckoner.Proofs.Denotation
import Reckoner.Proofs.Editor.Action
import Reckoner.Proofs.Editor.Calculation
import Reckoner.Proofs.Editor.Invariant
import Reckoner.Proofs.Editor.Keys
import Reckoner.Proofs.Editor.Leading
import Reckoner.Proofs.Editor.Percentage
import Reckoner.Proofs.Editor.Preview
import Reckoner.Proofs.Editor.Replay
import Reckoner.Proofs.Editor.Searching
import Reckoner.Proofs.Editor.TrailingNumber
import Reckoner.Proofs.Editor.Typed
import Reckoner.Proofs.Exactness
import Reckoner.Proofs.Grouping
import Reckoner.Proofs.Legibility
import Reckoner.Proofs.Lexemes
import Reckoner.Proofs.Meaning
import Reckoner.Proofs.Nesting
import Reckoner.Proofs.Number.Equality
import Reckoner.Proofs.Number.Noise
import Reckoner.Proofs.Number.Notation
import Reckoner.Proofs.Number.Places
import Reckoner.Proofs.Number.Positional
import Reckoner.Proofs.Number.Rounded
import Reckoner.Proofs.Number.Scale
import Reckoner.Proofs.Number.Shortest
import Reckoner.Proofs.Number.Whole
import Reckoner.Proofs.Operands
import Reckoner.Proofs.Outcome
import Reckoner.Proofs.Rejection
import Reckoner.Proofs.Rendering
import Reckoner.Proofs.Reporting
import Reckoner.Proofs.Runs
import Reckoner.Proofs.Scanning
import Reckoner.Proofs.Service.Posted
import Reckoner.Proofs.Service.Resumption
import Reckoner.Proofs.Session
import Reckoner.Proofs.Settings.Overriding
import Reckoner.Proofs.Signs
import Reckoner.Proofs.Stacking
import Reckoner.Proofs.Stages
import Reckoner.Repl
import Reckoner.Service.Answer
import Reckoner.Service.Path
import Reckoner.Service.Request
import Reckoner.Settings.Basic
import Reckoner.Settings.Environment
import Reckoner.Settings.Override
import Reckoner.Text.Blank
import Reckoner.Text.Digit
import Reckoner.Text.LineEnds
import Reckoner.Text.Lower
import Reckoner.Text.Part
import Reckoner.Text.Pattern
import Reckoner.Text.Printable
import Reckoner.Text.Quoted
import Reckoner.Text.Width
import Reckoner.Yaml.Block
import Reckoner.Yaml.Cursor
import Reckoner.Yaml.Document
import Reckoner.Yaml.Error
import Reckoner.Yaml.Kind
import Reckoner.Yaml.Moment
import Reckoner.Yaml.Node
import Reckoner.Yaml.Plain
import Reckoner.Yaml.Quoted
import Reckoner.Yaml.Scalar
import Reckoner.Yaml.Stream
import Reckoner.Yaml.Token
