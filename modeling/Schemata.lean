import Schemata.Binary64.Basic
import Schemata.Binary64.Layout
import Schemata.Binary64.Reader
import Schemata.Binary64.Rounding
import Schemata.Binary64.Shortest
import Schemata.Bundle.Basic
import Schemata.Bundle.Expression
import Schemata.Bundle.Source
import Schemata.Codec.Basic
import Schemata.Codec.Coercion
import Schemata.Codec.Decode
import Schemata.Codec.Encode
import Schemata.CommandLine.Arguments
import Schemata.CommandLine.Report
import Schemata.CommandLine.Run
import Schemata.Dict
import Schemata.Host.Basic
import Schemata.Host.Blueprint
import Schemata.Issue
import Schemata.Json.Basic
import Schemata.Json.Printer
import Schemata.Json.Reader
import Schemata.Main
import Schemata.Moment.Basic
import Schemata.Moment.Calendar
import Schemata.Moment.Description
import Schemata.Moment.Format
import Schemata.Moment.Reader
import Schemata.Moment.Rfc3339
import Schemata.Moment.Writer
import Schemata.Node.Basic
import Schemata.Node.Build
import Schemata.Node.Canonical
import Schemata.Node.Discriminator
import Schemata.Node.Projection
import Schemata.Node.Tree
import Schemata.NodeRegistry
import Schemata.Parser.ClassType
import Schemata.Parser.Context
import Schemata.Parser.Cursor
import Schemata.Parser.Extension
import Schemata.Parser.Grammar
import Schemata.Parser.Leaf
import Schemata.Parser.Name
import Schemata.Parser.Rule
import Schemata.Parser.Selection
import Schemata.Parser.Shape
import Schemata.Power
import Schemata.Project.Basic
import Schemata.Project.Document
import Schemata.Project.Settings
import Schemata.Project.Toml
import Schemata.Proofs.Binary64.Integral
import Schemata.Proofs.Binary64.Magnitude
import Schemata.Proofs.Binary64.Nearest
import Schemata.Proofs.Binary64.Rounding
import Schemata.Proofs.Binary64.Shortest
import Schemata.Proofs.Binary64.Text
import Schemata.Proofs.Bundle.Accepted
import Schemata.Proofs.Bundle.Equivalence
import Schemata.Proofs.Bundle.Rejection
import Schemata.Proofs.Bundle.Resolution
import Schemata.Proofs.Bundle.Restoration
import Schemata.Proofs.Bundle.Shape
import Schemata.Proofs.Bundle.Sharing
import Schemata.Proofs.Bundle.Table
import Schemata.Proofs.Bundle.Written
import Schemata.Proofs.Codec.Accounting
import Schemata.Proofs.Codec.Chains
import Schemata.Proofs.Codec.Congruence
import Schemata.Proofs.Codec.DeclarationOrder
import Schemata.Proofs.Codec.Dispatch
import Schemata.Proofs.Codec.Faultless
import Schemata.Proofs.Codec.Flattening
import Schemata.Proofs.Codec.Forms
import Schemata.Proofs.Codec.Inference
import Schemata.Proofs.Codec.Integers
import Schemata.Proofs.Codec.Intersections
import Schemata.Proofs.Codec.Labels
import Schemata.Proofs.Codec.Literals
import Schemata.Proofs.Codec.Mixed
import Schemata.Proofs.Codec.Moments
import Schemata.Proofs.Codec.Order
import Schemata.Proofs.Codec.Outline
import Schemata.Proofs.Codec.Parts
import Schemata.Proofs.Codec.Projection
import Schemata.Proofs.Codec.Readings
import Schemata.Proofs.Codec.References
import Schemata.Proofs.Codec.Regular
import Schemata.Proofs.Codec.Restored
import Schemata.Proofs.Codec.RoundTrip
import Schemata.Proofs.Codec.Scalars
import Schemata.Proofs.Codec.Selection
import Schemata.Proofs.Codec.Steady
import Schemata.Proofs.Codec.Success
import Schemata.Proofs.Codec.Untagged
import Schemata.Proofs.Codec.Verdict
import Schemata.Proofs.Codec.Widening
import Schemata.Proofs.Dictionary
import Schemata.Proofs.Json.Equality
import Schemata.Proofs.Json.Text
import Schemata.Proofs.Moment.Calendar
import Schemata.Proofs.Moment.Formats
import Schemata.Proofs.Node.Canonical
import Schemata.Proofs.Node.Children
import Schemata.Proofs.Node.Pinned
import Schemata.Proofs.Node.Projection
import Schemata.Proofs.Node.Readable
import Schemata.Proofs.Node.Rebuilding
import Schemata.Proofs.Node.References
import Schemata.Proofs.Node.Reordered
import Schemata.Proofs.Node.Shape
import Schemata.Proofs.Node.Sorted
import Schemata.Proofs.Node.WellFormed
import Schemata.Proofs.Outcome
import Schemata.Proofs.Parser.Additions
import Schemata.Proofs.Parser.Aliases
import Schemata.Proofs.Parser.ClassSides
import Schemata.Proofs.Parser.Contract
import Schemata.Proofs.Parser.ContractRules
import Schemata.Proofs.Parser.ContractTypes
import Schemata.Proofs.Parser.Declared
import Schemata.Proofs.Parser.Depth
import Schemata.Proofs.Parser.Failures
import Schemata.Proofs.Parser.Parting
import Schemata.Proofs.Parser.PartingRules
import Schemata.Proofs.Parser.PartingTypes
import Schemata.Proofs.Parser.Placement
import Schemata.Proofs.Parser.PrintedRules
import Schemata.Proofs.Parser.PrintedTypes
import Schemata.Proofs.Parser.PropertyLists
import Schemata.Proofs.Parser.Recursion
import Schemata.Proofs.Parser.Results
import Schemata.Proofs.Parser.SideBySide
import Schemata.Proofs.Parser.Steps
import Schemata.Proofs.Parser.WellFormed
import Schemata.Proofs.Parser.Wildcards
import Schemata.Proofs.Project.Forms
import Schemata.Proofs.Project.Registry
import Schemata.Proofs.Project.Setup
import Schemata.Proofs.Registry.Constants
import Schemata.Proofs.Registry.History
import Schemata.Proofs.Registry.Lookups
import Schemata.Proofs.Registry.Positions
import Schemata.Proofs.Resolution
import Schemata.Proofs.Source.Expressions
import Schemata.Proofs.Source.Lexer
import Schemata.Proofs.Source.Literals
import Schemata.Proofs.Source.Meaning
import Schemata.Proofs.Source.Modules
import Schemata.Proofs.Source.Rebuilding
import Schemata.Proofs.Source.Spelling
import Schemata.Proofs.Source.Terms
import Schemata.Proofs.Text.Decimal
import Schemata.Proofs.Token.Classes
import Schemata.Proofs.Token.Numerals
import Schemata.Proofs.Token.Replacement
import Schemata.Proofs.Token.Spelling
import Schemata.Proofs.Token.Tiling
import Schemata.Proofs.Token.Words
import Schemata.Proofs.Unfolding
import Schemata.Regex.Automaton
import Schemata.Regex.Basic
import Schemata.Regex.Bracket
import Schemata.Regex.Property
import Schemata.Regex.Reader
import Schemata.Regex.Reading
import Schemata.Regex.Search
import Schemata.Sha256
import Schemata.SyntaxError
import Schemata.Text.Additions
import Schemata.Text.Ages
import Schemata.Text.Breaks
import Schemata.Text.CaseFolding
import Schemata.Text.Character
import Schemata.Text.CodeRanges
import Schemata.Text.Decimal
import Schemata.Text.DerivedProperties
import Schemata.Text.Emoji
import Schemata.Text.Escaped
import Schemata.Text.Letters
import Schemata.Text.Marks
import Schemata.Text.Properties
import Schemata.Text.Quoted
import Schemata.Text.RareScripts
import Schemata.Text.ScriptNames
import Schemata.Text.Scripts
import Schemata.Text.Symbols
import Schemata.Text.Utf8
import Schemata.Token.Basic
import Schemata.Token.Lexer
import Schemata.TypeRegistry
import Schemata.Validator
import Schemata.Value
