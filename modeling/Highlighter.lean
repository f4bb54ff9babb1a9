import Highlighter.CommandLine.Arguments
import Highlighter.CommandLine.Process
import Highlighter.CommandLine.Run
import Highlighter.Config.Error
import Highlighter.Config.Key
import Highlighter.Config.Load
import Highlighter.Config.Settings
import Highlighter.Config.Value
import Highlighter.Files
import Highlighter.Grammar.Basic
import Highlighter.Grammar.Declare
import Highlighter.Json.Basic
import Highlighter.Json.Name
import Highlighter.Json.Read
import Highlighter.Language
import Highlighter.Main
import Highlighter.Number.Decimal
import Highlighter.Number.Digits
import Highlighter.Number.Double
import Highlighter.OutputFormat
import Highlighter.Pattern.Basic
import Highlighter.Pattern.CharSet
import Highlighter.Pdfile
import Highlighter.Prldevops
import Highlighter.Proofs.Anchoring
import Highlighter.Proofs.AppendedRules
import Highlighter.Proofs.Boundaries
import Highlighter.Proofs.CommandBodies
import Highlighter.Proofs.CommandLine.Failures
import Highlighter.Proofs.CommandLine.PlainText
import Highlighter.Proofs.Completeness
import Highlighter.Proofs.Composition
import Highlighter.Proofs.Config.Groups
import Highlighter.Proofs.Config.Layers
import Highlighter.Proofs.Covering
import Highlighter.Proofs.DecidingLines
import Highlighter.Proofs.DeclarationOrder
import Highlighter.Proofs.Digits
import Highlighter.Proofs.EmptyMatches
import Highlighter.Proofs.Grammar.Building
import Highlighter.Proofs.Grammar.Caseless
import Highlighter.Proofs.Grammar.Characters
import Highlighter.Proofs.Grammar.Defects
import Highlighter.Proofs.Grammar.Firing
import Highlighter.Proofs.Grammar.Groups
import Highlighter.Proofs.Grammar.Kinds
import Highlighter.Proofs.Grammar.Lines
import Highlighter.Proofs.Grammar.Parts
import Highlighter.Proofs.Grammar.Preferred
import Highlighter.Proofs.Grammar.PreferredRows
import Highlighter.Proofs.Grammar.Rows
import Highlighter.Proofs.Grammar.Runs
import Highlighter.Proofs.Grammar.Starts
import Highlighter.Proofs.Grammar.States
import Highlighter.Proofs.Grammar.Words
import Highlighter.Proofs.GroupTokens
import Highlighter.Proofs.Guessing
import Highlighter.Proofs.LetterCase
import Highlighter.Proofs.LineEnds
import Highlighter.Proofs.OpenStates
import Highlighter.Proofs.Openings
import Highlighter.Proofs.Pattern.Extent
import Highlighter.Proofs.Pattern.LetterCase
import Highlighter.Proofs.Pattern.Locality
import Highlighter.Proofs.Pdfile.AttributeLists
import Highlighter.Proofs.Pdfile.Bodies
import Highlighter.Proofs.Pdfile.Categories
import Highlighter.Proofs.Pdfile.ClosedValues
import Highlighter.Proofs.Pdfile.CommaLists
import Highlighter.Proofs.Pdfile.Comments
import Highlighter.Proofs.Pdfile.DirectiveLines
import Highlighter.Proofs.Pdfile.Directives
import Highlighter.Proofs.Pdfile.Fields
import Highlighter.Proofs.Pdfile.Keywords
import Highlighter.Proofs.Pdfile.LeadingDirectives
import Highlighter.Proofs.Pdfile.Origins
import Highlighter.Proofs.Pdfile.PlainDirectives
import Highlighter.Proofs.Pdfile.Readings
import Highlighter.Proofs.Pdfile.Table
import Highlighter.Proofs.Pdfile.TrailingComments
import Highlighter.Proofs.Pdfile.ValueLines
import Highlighter.Proofs.Prldevops.Program
import Highlighter.Proofs.Prldevops.Subcommands
import Highlighter.Proofs.Prldevops.Table
import Highlighter.Proofs.Regex.Enclosing
import Highlighter.Proofs.Regex.Meaning
import Highlighter.Proofs.Regex.Reading
import Highlighter.Proofs.Regex.WrittenOrder
import Highlighter.Proofs.Render.Display
import Highlighter.Proofs.Render.Entities
import Highlighter.Proofs.Render.JsonDump
import Highlighter.Proofs.Render.JsonValues
import Highlighter.Proofs.Render.LineBreaks
import Highlighter.Proofs.Render.LineDump
import Highlighter.Proofs.Render.Markup
import Highlighter.Proofs.Render.Pieces
import Highlighter.Proofs.Render.QuotedTexts
import Highlighter.Proofs.Render.Screen
import Highlighter.Proofs.Resumption
import Highlighter.Proofs.Scan.Calls
import Highlighter.Proofs.Scan.Levels
import Highlighter.Proofs.Scan.Positions
import Highlighter.Proofs.Scan.Run
import Highlighter.Proofs.Scan.Simulation
import Highlighter.Proofs.Scan.Slices
import Highlighter.Proofs.Scan.Tiles
import Highlighter.Proofs.Separators
import Highlighter.Proofs.Streaming
import Highlighter.Proofs.SubStates
import Highlighter.Proofs.Toml.DistinctKeys
import Highlighter.Proofs.Validation
import Highlighter.Proofs.WordLists
import Highlighter.Proofs.WordSets
import Highlighter.Regex.Basic
import Highlighter.Regex.Bracket
import Highlighter.Regex.Compiler
import Highlighter.Regex.Escape
import Highlighter.Regex.Property
import Highlighter.Regex.PropertyValue
import Highlighter.Regex.Quote
import Highlighter.Regex.Read
import Highlighter.Render.Data
import Highlighter.Render.Html
import Highlighter.Render.Lines
import Highlighter.Render.Terminal
import Highlighter.Render.Yaml
import Highlighter.Scan
import Highlighter.Text
import Highlighter.Text.Quoted
import Highlighter.Token
import Highlighter.Toml.Document
import Highlighter.Toml.Reader
import Highlighter.Toml.Scalar
import Highlighter.Toml.Value
import Highlighter.Unicode.Age
import Highlighter.Unicode.Boundary
import Highlighter.Unicode.Category
import Highlighter.Unicode.Escaped
import Highlighter.Unicode.Folding
import Highlighter.Unicode.Lower
import Highlighter.Unicode.Property
import Highlighter.Unicode.Ranges
import Highlighter.Unicode.Script
import Highlighter.Unicode.ScriptExtension
import Highlighter.Unicode.Word
import Highlighter.Yaml.Scalar
