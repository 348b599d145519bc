import TestOutline.Command.Arguments
import TestOutline.Command.Report
import TestOutline.Files.Disk
import TestOutline.Files.Path
import TestOutline.Files.Reading
import TestOutline.Json.Printer
import TestOutline.Json.Reader
import TestOutline.Json.Value
import TestOutline.Main
import TestOutline.Metadata.Marker
import TestOutline.Metadata.Mask
import TestOutline.Metadata.Scan
import TestOutline.Metadata.TestCode
import TestOutline.Number.Binary64
import TestOutline.Number.Shortest
import TestOutline.Outline.Basic
import TestOutline.Outline.Candidate
import TestOutline.Outline.Classifier
import TestOutline.Outline.Extraction
import TestOutline.Outline.Files
import TestOutline.Outline.Forest
import TestOutline.Outline.Imports
import TestOutline.Outline.Options
import TestOutline.Outline.Region
import TestOutline.Outline.Statistics
import TestOutline.Pattern.Basic
import TestOutline.Pattern.Reader
import TestOutline.Record.Fields
import TestOutline.Record.OptionsReader
import TestOutline.Record.Printer
import TestOutline.Record.Reader
import TestOutline.Record.Reading
import TestOutline.Record.Scalar
import TestOutline.Search.Bisect
import TestOutline.Source.Basic
import TestOutline.Syntax.Character
import TestOutline.Syntax.Cursor
import TestOutline.Syntax.Grammar.Class
import TestOutline.Syntax.Grammar.Declaration
import TestOutline.Syntax.Grammar.Element
import TestOutline.Syntax.Grammar.Expression
import TestOutline.Syntax.Grammar.Function
import TestOutline.Syntax.Grammar.Module
import TestOutline.Syntax.Grammar.Statement
import TestOutline.Syntax.Grammar.Type
import TestOutline.Syntax.Language
import TestOutline.Syntax.Lexeme
import TestOutline.Syntax.Node
import TestOutline.Syntax.Parse
import TestOutline.Syntax.Parser
import TestOutline.Syntax.StringLiteral
import TestOutline.Syntax.Tree
import TestOutline.Terminal.Markup
import TestOutline.Terminal.Table
import TestOutline.Text.Blank
import TestOutline.Text.Case
import TestOutline.Text.CodePoint
import TestOutline.Text.Digit
import TestOutline.Text.Encoding
import TestOutline.Text.Hex
import TestOutline.Text.Lines
import TestOutline.Text.Lower
import TestOutline.Text.Printable
import TestOutline.Text.Quoted
import TestOutline.Text.Ranges
import TestOutline.Text.Width
import TestOutline.Text.Word
import TestOutline.Tree
import TestOutline.Proofs.Forest.Depth
import TestOutline.Proofs.Forest.Frame
import TestOutline.Proofs.Forest.Innermost
import TestOutline.Proofs.Forest.Judged
import TestOutline.Proofs.Forest.Laminar
import TestOutline.Proofs.Forest.Listing
import TestOutline.Proofs.Forest.Order
import TestOutline.Proofs.Forest.Reordered
import TestOutline.Proofs.Forest.Sweep
import TestOutline.Proofs.Forest.Trees
import TestOutline.Proofs.Forest.WellFormed
import TestOutline.Proofs.Json.LongInteger
import TestOutline.Proofs.Messages
import TestOutline.Proofs.Metadata.Append
import TestOutline.Proofs.Metadata.Blanked
import TestOutline.Proofs.Metadata.Finding
import TestOutline.Proofs.Metadata.Hidden
import TestOutline.Proofs.Metadata.Marker
import TestOutline.Proofs.Metadata.Masked
import TestOutline.Proofs.Metadata.Overwritten
import TestOutline.Proofs.Metadata.Pairing
import TestOutline.Proofs.Metadata.Parentheses
import TestOutline.Proofs.Metadata.Places
import TestOutline.Proofs.Metadata.Plain
import TestOutline.Proofs.Metadata.Repeated
import TestOutline.Proofs.Metadata.TestCode
import TestOutline.Proofs.Metadata.Written
import TestOutline.Proofs.Outline.Assembly
import TestOutline.Proofs.Outline.Blocks
import TestOutline.Proofs.Outline.Bodies
import TestOutline.Proofs.Outline.Classification
import TestOutline.Proofs.Outline.Comments
import TestOutline.Proofs.Outline.Complete
import TestOutline.Proofs.Outline.DocumentOrder
import TestOutline.Proofs.Outline.Enclosing
import TestOutline.Proofs.Outline.Evidence
import TestOutline.Proofs.Outline.Lookup
import TestOutline.Proofs.Outline.NearestTest
import TestOutline.Proofs.Outline.OptionsApart
import TestOutline.Proofs.Outline.Outcome
import TestOutline.Proofs.Outline.Returns
import TestOutline.Proofs.Outline.Traversal
import TestOutline.Proofs.Pattern.Matching
import TestOutline.Proofs.Record.Denotes
import TestOutline.Proofs.Record.OptionsBounds
import TestOutline.Proofs.Record.Spelling
import TestOutline.Proofs.Region.Contents
import TestOutline.Proofs.Region.Reformatted
import TestOutline.Proofs.Region.Separated
import TestOutline.Proofs.Region.Uncommented
import TestOutline.Proofs.Returns
import TestOutline.Proofs.Source.Lines
import TestOutline.Proofs.Source.Offsets
import TestOutline.Proofs.Source.Positions
import TestOutline.Proofs.Syntax.Comments
import TestOutline.Proofs.Syntax.StringLiteral
import TestOutline.Proofs.Syntax.StringValue
import TestOutline.Proofs.Text.Lines
import TestOutline.Proofs.Tree.Ways
