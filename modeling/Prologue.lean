import Prologue.Bytes
import Prologue.Command.Arguments
import Prologue.Command.Run
import Prologue.Command.Session
import Prologue.Console
import Prologue.Console.Literal
import Prologue.Console.Markup
import Prologue.Console.Pictures
import Prologue.Console.Style
import Prologue.Console.Table
import Prologue.Console.Wrap
import Prologue.Directive.Analysis
import Prologue.Directive.Diagnostic
import Prologue.Directive.NearMatch
import Prologue.Directive.Record
import Prologue.Directive.Removal
import Prologue.Directive.Scope
import Prologue.Disk
import Prologue.Glob.Pattern
import Prologue.Glob.Wildcard
import Prologue.Grammar.Character
import Prologue.Grammar.Classes
import Prologue.Grammar.Cursor
import Prologue.Grammar.Dialect
import Prologue.Grammar.Expressions
import Prologue.Grammar.Name
import Prologue.Grammar.Parse
import Prologue.Grammar.Patterns
import Prologue.Grammar.Rule
import Prologue.Grammar.Semicolon
import Prologue.Grammar.Statements
import Prologue.Grammar.Token
import Prologue.Grammar.Types
import Prologue.Index.Discovery
import Prologue.Index.Document
import Prologue.Index.Extraction
import Prologue.Index.Metadata
import Prologue.Index.Pool
import Prologue.Index.Run
import Prologue.Index.Selection
import Prologue.Json
import Prologue.Json.Reader
import Prologue.Json.Shape
import Prologue.Language
import Prologue.Main
import Prologue.Notice
import Prologue.Path
import Prologue.Proofs.EditDistance
import Prologue.Proofs.TreeWalk
import Prologue.Proofs.Traversal
import Prologue.Proofs.Encoding
import Prologue.Proofs.Widths
import Prologue.Settings
import Prologue.Source
import Prologue.Text.Alphabetic
import Prologue.Text.Blank
import Prologue.Text.Digit
import Prologue.Text.Lower
import Prologue.Text.Printable
import Prologue.Text.Quoted
import Prologue.Text.Ranges
import Prologue.Text.Utf8
import Prologue.Text.Width
import Prologue.Transform
import Prologue.Transform.File
import Prologue.Tree.Node
import Prologue.Tree.Tour
import Prologue.Watch
import Prologue.Proofs.Sightings
import Prologue.Proofs.Deletion
import Prologue.Proofs.Layout
import Prologue.Proofs.Lines
import Prologue.Proofs.Removal
import Prologue.Proofs.Locality
import Prologue.Proofs.Progress
import Prologue.Proofs.Gaps
import Prologue.Proofs.Openings
import Prologue.Proofs.Seams
import Prologue.Proofs.Outline
import Prologue.Proofs.Pieces
import Prologue.Proofs.Remainder
import Prologue.Proofs.Preservation
import Prologue.Proofs.Extent
import Prologue.Proofs.Laying
import Prologue.Proofs.Alignment
import Prologue.Proofs.Decodability
import Prologue.Proofs.Parts
import Prologue.Proofs.Agreement
import Prologue.Proofs.Idempotence
import Prologue.Proofs.Places
import Prologue.Proofs.Coverage
import Prologue.Proofs.Sharing
import Prologue.Proofs.ReadBack
import Prologue.Proofs.WatchHistory
import Prologue.Proofs.LineEndings
import Prologue.Proofs.SelectionOrder
import Prologue.Proofs.UnreadablePatterns
import Prologue.Proofs.WriteSafety
import Prologue.Proofs.OwnOutput
import Prologue.Proofs.Lists
import Prologue.Proofs.Consoles
import Prologue.Proofs.Showing
import Prologue.Proofs.Examination
import Prologue.Proofs.CheckReports
import Prologue.Proofs.Listing
import Prologue.Proofs.SourceOrder
import Prologue.Proofs.LetterCase
import Prologue.Proofs.SchemaLinks
import Prologue.Proofs.Asides
import Prologue.Proofs.Exports
import Prologue.Proofs.SharedParts
import Prologue.Proofs.Detours
import Prologue.Proofs.Depth
import Prologue.Proofs.Returns
import Prologue.Proofs.LineScans
import Prologue.Proofs.LongScans
import Prologue.Proofs.SemicolonScans
import Prologue.Proofs.Relocation
import Prologue.Proofs.BareReading
import Prologue.Proofs.NameLines
import Prologue.Proofs.LineNumbers
import Prologue.Proofs.Points
