import SlideContract.Chain.Basic
import SlideContract.Chain.Literal
import SlideContract.Chain.Removal
import SlideContract.Compile.Expression
import SlideContract.Compile.Kind
import SlideContract.Compile.Modifiers
import SlideContract.Console.Act
import SlideContract.Console.Arguments
import SlideContract.Console.Command
import SlideContract.Console.Disk
import SlideContract.Console.Display
import SlideContract.Console.Plain
import SlideContract.Declaration.Entry
import SlideContract.Declaration.Search
import SlideContract.Declaration.Table
import SlideContract.Document
import SlideContract.Edit.Close
import SlideContract.Edit.Fault
import SlideContract.Edit.Field
import SlideContract.Edit.Prune
import SlideContract.Edit.Response
import SlideContract.Entries
import SlideContract.Event
import SlideContract.Finding
import SlideContract.Json.Basic
import SlideContract.Json.Display
import SlideContract.Json.Equal
import SlideContract.Json.Reader
import SlideContract.Json.Writer
import SlideContract.Layout.Compile
import SlideContract.Layout.Metadata
import SlideContract.Layout.Record
import SlideContract.Location
import SlideContract.Main
import SlideContract.Number.Basic
import SlideContract.Number.Binary64
import SlideContract.Number.Shortest
import SlideContract.Pattern.Basic
import SlideContract.Pattern.CharSet
import SlideContract.Pattern.Escape
import SlideContract.Pattern.Piece
import SlideContract.Pattern.Query
import SlideContract.Pattern.Reader
import SlideContract.Pattern.Search
import SlideContract.Pattern.Source
import SlideContract.Proofs.Chain.Apart
import SlideContract.Proofs.Chain.Cleared
import SlideContract.Proofs.Chain.Cut
import SlideContract.Proofs.Chain.Insertion
import SlideContract.Proofs.Chain.Literal
import SlideContract.Proofs.Chain.Lossless
import SlideContract.Proofs.Chain.Parse
import SlideContract.Proofs.Chain.Render
import SlideContract.Proofs.Chain.Spelling
import SlideContract.Proofs.Chain.Standard
import SlideContract.Proofs.Chain.Tame
import SlideContract.Proofs.Compile.Account
import SlideContract.Proofs.Compile.Braced
import SlideContract.Proofs.Compile.Built
import SlideContract.Proofs.Compile.Cycle
import SlideContract.Proofs.Compile.Default
import SlideContract.Proofs.Compile.Descent
import SlideContract.Proofs.Compile.Ends
import SlideContract.Proofs.Compile.Field
import SlideContract.Proofs.Compile.Guard
import SlideContract.Proofs.Compile.Height
import SlideContract.Proofs.Compile.Inline
import SlideContract.Proofs.Compile.Inlined
import SlideContract.Proofs.Compile.Keyed
import SlideContract.Proofs.Compile.Length
import SlideContract.Proofs.Compile.Numeral
import SlideContract.Proofs.Compile.Object
import SlideContract.Proofs.Compile.Open
import SlideContract.Proofs.Compile.Optional
import SlideContract.Proofs.Compile.Parts
import SlideContract.Proofs.Compile.Quoted
import SlideContract.Proofs.Compile.Range
import SlideContract.Proofs.Compile.Reading
import SlideContract.Proofs.Compile.Sublist
import SlideContract.Proofs.Compile.Suffix
import SlideContract.Proofs.Compile.Wrapped
import SlideContract.Proofs.Compile.Writing
import SlideContract.Proofs.Declaration.Append
import SlideContract.Proofs.Declaration.Chain
import SlideContract.Proofs.Declaration.Entry
import SlideContract.Proofs.Declaration.Lost
import SlideContract.Proofs.Declaration.Single
import SlideContract.Proofs.Declaration.Table
import SlideContract.Proofs.Document.Accepted
import SlideContract.Proofs.Document.Breach
import SlideContract.Proofs.Document.Close
import SlideContract.Proofs.Document.Findings
import SlideContract.Proofs.Document.Nesting
import SlideContract.Proofs.Document.Numbers
import SlideContract.Proofs.Document.Sound
import SlideContract.Proofs.Document.Usable
import SlideContract.Proofs.Edit.Addition
import SlideContract.Proofs.Edit.Again
import SlideContract.Proofs.Edit.Closed
import SlideContract.Proofs.Edit.Content
import SlideContract.Proofs.Edit.Kept
import SlideContract.Proofs.Edit.Removal
import SlideContract.Proofs.Edit.Response
import SlideContract.Proofs.Edit.Visited
import SlideContract.Proofs.Entries
import SlideContract.Proofs.Finding
import SlideContract.Proofs.Json.Digits
import SlideContract.Proofs.Json.Part
import SlideContract.Proofs.Json.Place
import SlideContract.Proofs.Layout.Comment
import SlideContract.Proofs.Layout.Content
import SlideContract.Proofs.Layout.Context
import SlideContract.Proofs.Layout.Course
import SlideContract.Proofs.Layout.Cycle
import SlideContract.Proofs.Layout.Fallback
import SlideContract.Proofs.Layout.Faultless
import SlideContract.Proofs.Layout.Metadata
import SlideContract.Proofs.Layout.Nesting
import SlideContract.Proofs.Layout.Numbers
import SlideContract.Proofs.Layout.Usable
import SlideContract.Proofs.Layout.Written
import SlideContract.Proofs.Location
import SlideContract.Proofs.Location.Path
import SlideContract.Proofs.Number.Overflow
import SlideContract.Proofs.Run
import SlideContract.Proofs.Scan.Code
import SlideContract.Proofs.Scan.Comment
import SlideContract.Proofs.Scan.Exact
import SlideContract.Proofs.Scan.Lexer
import SlideContract.Proofs.Scan.Matched
import SlideContract.Proofs.Scan.Paired
import SlideContract.Proofs.Scan.Partition
import SlideContract.Proofs.Scan.Plain
import SlideContract.Proofs.Scan.Reach
import SlideContract.Proofs.Scan.Region
import SlideContract.Proofs.Scan.Semicolon
import SlideContract.Proofs.Scan.Span
import SlideContract.Proofs.Scan.Split
import SlideContract.Proofs.Scan.Uncommented
import SlideContract.Proofs.Schema.Examined
import SlideContract.Proofs.Schema.Found
import SlideContract.Proofs.Schema.Located
import SlideContract.Proofs.Schema.Unique
import SlideContract.Proofs.Schema.Valid
import SlideContract.Proofs.Settings
import SlideContract.Proofs.Settings.Accepted
import SlideContract.Proofs.Sorting
import SlideContract.Proofs.Text.Blank
import SlideContract.Proofs.Text.Name
import SlideContract.Proofs.Verdict
import SlideContract.Run
import SlideContract.Scan.Balanced
import SlideContract.Scan.Span
import SlideContract.Scan.Split
import SlideContract.Scan.State
import SlideContract.Scan.Walk
import SlideContract.Schema.Check
import SlideContract.Schema.Draft
import SlideContract.Schema.Inspection
import SlideContract.Schema.Keyword
import SlideContract.Schema.Strict
import SlideContract.Schema.Unique
import SlideContract.Schema.Violation
import SlideContract.Settings.Basic
import SlideContract.Settings.Fault
import SlideContract.Settings.Reader
import SlideContract.Sorting.Merge
import SlideContract.Sorting.Search
import SlideContract.Sorting.Sort
import SlideContract.Text.Blank
import SlideContract.Text.CaseFamily
import SlideContract.Text.CaseRun
import SlideContract.Text.CharacterName.Aliases
import SlideContract.Text.CharacterName.Alphabets
import SlideContract.Text.CharacterName.Ancient
import SlideContract.Text.CharacterName.Block
import SlideContract.Text.CharacterName.EastAsian
import SlideContract.Text.CharacterName.Lookup
import SlideContract.Text.CharacterName.Notation
import SlideContract.Text.CharacterName.Pictographs
import SlideContract.Text.CharacterName.Scripts
import SlideContract.Text.CharacterName.Signs
import SlideContract.Text.CharacterName.Symbols
import SlideContract.Text.DecimalDigit
import SlideContract.Text.Identifier
import SlideContract.Text.LowerCase
import SlideContract.Text.Part
import SlideContract.Text.Printable
import SlideContract.Text.Quoted
import SlideContract.Text.Ranges
import SlideContract.Text.UpperCase
import SlideContract.Text.Utf8
import SlideContract.Text.Word
import SlideContract.TypeTree
