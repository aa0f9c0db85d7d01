import MediaLibrary.Arguments.Reading
import MediaLibrary.Arguments.Spec
import MediaLibrary.Binary64.Basic
import MediaLibrary.Binary64.Layout
import MediaLibrary.Binary64.Reading
import MediaLibrary.Binary64.Shortest
import MediaLibrary.Bytes.Basic
import MediaLibrary.Bytes.Hex
import MediaLibrary.Command.Basic
import MediaLibrary.Command.Call
import MediaLibrary.Command.Files
import MediaLibrary.Command.Grammar
import MediaLibrary.Command.Home
import MediaLibrary.Command.Run
import MediaLibrary.Command.Session
import MediaLibrary.Command.View
import MediaLibrary.Config.Basic
import MediaLibrary.Config.Toml
import MediaLibrary.Grouping.Basic
import MediaLibrary.Grouping.Groups
import MediaLibrary.Grouping.Memo
import MediaLibrary.Json.Basic
import MediaLibrary.Json.Form
import MediaLibrary.Json.Move
import MediaLibrary.Json.Number
import MediaLibrary.Json.Printer
import MediaLibrary.Json.Property
import MediaLibrary.Json.Reader
import MediaLibrary.Json.Record
import MediaLibrary.Json.Shape
import MediaLibrary.Json.View
import MediaLibrary.Json.ViewResult
import MediaLibrary.Library.Basic
import MediaLibrary.Library.Definitions
import MediaLibrary.Library.Moves
import MediaLibrary.Library.Records
import MediaLibrary.Library.Views
import MediaLibrary.Main
import MediaLibrary.Moves.Index
import MediaLibrary.Moves.Memo
import MediaLibrary.Property.Catalog
import MediaLibrary.Property.Definition
import MediaLibrary.Property.Hash
import MediaLibrary.Property.Value
import MediaLibrary.Query.Compile
import MediaLibrary.Query.Filter
import MediaLibrary.Query.Search
import MediaLibrary.Query.Source
import MediaLibrary.Record.Basic
import MediaLibrary.Record.Calendar
import MediaLibrary.Record.Field
import MediaLibrary.Record.FieldValue
import MediaLibrary.Record.FilePath
import MediaLibrary.Record.FileSize
import MediaLibrary.Report.Lines
import MediaLibrary.Report.Style
import MediaLibrary.Store.Basic
import MediaLibrary.Store.Error
import MediaLibrary.Store.IdList
import MediaLibrary.Store.Image
import MediaLibrary.Store.Index
import MediaLibrary.Store.Plan
import MediaLibrary.Store.RecordKey
import MediaLibrary.Store.Tag
import MediaLibrary.Text.Blank
import MediaLibrary.Text.Hexadecimal
import MediaLibrary.Text.Letters
import MediaLibrary.Text.Lowercase
import MediaLibrary.Text.Numeral
import MediaLibrary.Text.Terms
import MediaLibrary.Text.UnknownName
import MediaLibrary.Toml.Basic
import MediaLibrary.Toml.Document
import MediaLibrary.Toml.Moment
import MediaLibrary.Toml.Path
import MediaLibrary.Toml.Printer
import MediaLibrary.Toml.Reader
import MediaLibrary.View.Layers
import MediaLibrary.View.Page
import MediaLibrary.View.Parameters
import MediaLibrary.View.Sort
import MediaLibrary.Proofs.Store.IdList
import MediaLibrary.Proofs.Store.Index
import MediaLibrary.Proofs.Store.Sound
import MediaLibrary.Proofs.Store.Plain
import MediaLibrary.Proofs.Store.Edits
import MediaLibrary.Proofs.Store.Refinement
import MediaLibrary.Proofs.Query.Filter
import MediaLibrary.Proofs.Store.Plan
import MediaLibrary.Proofs.Checked
import MediaLibrary.Proofs.Property.Definition
import MediaLibrary.Proofs.Property.Catalog
import MediaLibrary.Proofs.Library.Definitions
import MediaLibrary.Proofs.Property.WellFormed
import MediaLibrary.Proofs.Library.Program
import MediaLibrary.Proofs.Library.Run
import MediaLibrary.Proofs.Library.Operations
import MediaLibrary.Proofs.Library.Views
import MediaLibrary.Proofs.Library.Sound
import MediaLibrary.Proofs.Grouping.Groups
import MediaLibrary.Proofs.Grouping.Gathered
import MediaLibrary.Proofs.Grouping.Covered
import MediaLibrary.Proofs.Grouping.Arranged
import MediaLibrary.Proofs.Grouping.Followed
import MediaLibrary.Proofs.Record.Identified
import MediaLibrary.Proofs.Library.Memory
import MediaLibrary.Proofs.View.Page
import MediaLibrary.Proofs.Library.Shown
import MediaLibrary.Proofs.Library.Disturbing
import MediaLibrary.Proofs.Grouping.Members
import MediaLibrary.Proofs.Store.Batch
import MediaLibrary.Proofs.Library.Import
import MediaLibrary.Proofs.Command.Program
import MediaLibrary.Proofs.View.Parameters
import MediaLibrary.Proofs.View.Path
import MediaLibrary.Proofs.View.Listeners
import MediaLibrary.Proofs.View.Followed
import MediaLibrary.Proofs.View.Defaults
import MediaLibrary.Proofs.Command.View
import MediaLibrary.Proofs.Text.Terms
import MediaLibrary.Proofs.Text.Forms
import MediaLibrary.Proofs.Query.Typed
import MediaLibrary.Proofs.Query.Search
import MediaLibrary.Proofs.View.Sort
import MediaLibrary.Proofs.View.Sorted
import MediaLibrary.Proofs.Library.Ungrouped
import MediaLibrary.Proofs.View.Coherent
import MediaLibrary.Proofs.Library.Coherent
import MediaLibrary.Proofs.Library.Answered
import MediaLibrary.Proofs.Library.Columns
import MediaLibrary.Proofs.Library.Chosen
import MediaLibrary.Proofs.Library.Refused
import MediaLibrary.Proofs.Library.Caches
import MediaLibrary.Proofs.Moves.Index
import MediaLibrary.Proofs.Library.Moves
import MediaLibrary.Proofs.Store.Identifiers
import MediaLibrary.Proofs.Moves.Candidates
import MediaLibrary.Proofs.Moves.Labels
import MediaLibrary.Proofs.Library.Resolved
import MediaLibrary.Proofs.Record.Renamed
import MediaLibrary.Proofs.Library.Renamed
import MediaLibrary.Proofs.View.Paging
import MediaLibrary.Proofs.Store.Tagged
import MediaLibrary.Proofs.Library.Tagged
import MediaLibrary.Proofs.Bytes.Reads
import MediaLibrary.Proofs.Store.TagKey
import MediaLibrary.Proofs.Library.Removed
import MediaLibrary.Proofs.Record.Validated
import MediaLibrary.Proofs.Store.Placed
import MediaLibrary.Proofs.Library.Identifiers
import MediaLibrary.Proofs.Library.Imported
import MediaLibrary.Proofs.Property.Values
import MediaLibrary.Proofs.Query.Normal
import MediaLibrary.Proofs.Library.Selected
import MediaLibrary.Proofs.Text.Lowercase
import MediaLibrary.Proofs.Library.Quoted
import MediaLibrary.Proofs.Query.Written
import MediaLibrary.Proofs.Json.ReadBack
import MediaLibrary.Proofs.Store.Listed
import MediaLibrary.Proofs.Store.RecordKey
import MediaLibrary.Proofs.Grouping.Ordered
import MediaLibrary.Proofs.Grouping.Remembered
