import YamlListing.Category
import YamlListing.Color.Basic
import YamlListing.Color.Cell
import YamlListing.Command.Arguments
import YamlListing.Command.Log
import YamlListing.Command.Run
import YamlListing.Diff.Edit
import YamlListing.Diff.Revision
import YamlListing.Diff.Script
import YamlListing.Diff.View
import YamlListing.Listing.Gutter
import YamlListing.Listing.LineRange
import YamlListing.Listing.Printer
import YamlListing.Listing.Selection
import YamlListing.Main
import YamlListing.Position
import YamlListing.Proofs.Diff.Reach
import YamlListing.Proofs.Diff.Runs
import YamlListing.Proofs.Diff.Search
import YamlListing.Proofs.Diff.Shortest
import YamlListing.Proofs.Diff.Trail
import YamlListing.Proofs.Position
import YamlListing.Proofs.Span.Clip
import YamlListing.Proofs.Text.Place
import YamlListing.Proofs.Text.Split
import YamlListing.Proofs.Theme.Composer
import YamlListing.Proofs.Theme.Styles
import YamlListing.Proofs.Yaml.Cover
import YamlListing.Proofs.Yaml.Lossless
import YamlListing.Proofs.Yaml.Rounds
import YamlListing.Search.Finder
import YamlListing.Search.Normalizer
import YamlListing.Settings.Basic
import YamlListing.Settings.Theme
import YamlListing.Settings.Toml.Document
import YamlListing.Settings.Toml.Scalar
import YamlListing.Settings.Toml.Value
import YamlListing.Source.Basic
import YamlListing.Source.Error
import YamlListing.Span
import YamlListing.Style.Basic
import YamlListing.Style.Compose
import YamlListing.Terminal.Control
import YamlListing.Terminal.Sgr
import YamlListing.Terminal.Writer
import YamlListing.Text.Basic
import YamlListing.Text.Decimal
import YamlListing.Text.Natural
import YamlListing.Text.Quoted
import YamlListing.Text.Scan
import YamlListing.Theme.Builtin
import YamlListing.Theme.Composer
import YamlListing.Theme.Contrast
import YamlListing.Theme.Error
import YamlListing.Theme.Palette
import YamlListing.Theme.Registry
import YamlListing.Theme.Styles
import YamlListing.Unicode.Blank
import YamlListing.Unicode.Cluster
import YamlListing.Unicode.ClusterTables
import YamlListing.Unicode.CodePoints
import YamlListing.Unicode.Decomposition
import YamlListing.Unicode.Lowercase
import YamlListing.Unicode.Mark
import YamlListing.Unicode.Printable
import YamlListing.Unicode.Width
import YamlListing.Unicode.WidthTables
import YamlListing.Unicode.WidthVariant
import YamlListing.Yaml.Lexer
import YamlListing.Yaml.Scalar
import YamlListing.Yaml.Segment
import YamlListing.Yaml.Token
import YamlListing.Proofs.Source.Substring
import YamlListing.Proofs.Yaml.Partition
import YamlListing.Proofs.Source.Parts
import YamlListing.Proofs.Search.Leftmost
import YamlListing.Proofs.Search.Occurrence
import YamlListing.Proofs.Source.Classify
import YamlListing.Proofs.Source.Column
import YamlListing.Proofs.Listing.Cells
import YamlListing.Proofs.Listing.Line
import YamlListing.Proofs.Listing.Print
import YamlListing.Proofs.Listing.Runs
import YamlListing.Proofs.Style.Alike
import YamlListing.Proofs.Terminal.Control
import YamlListing.Proofs.Terminal.Rows
import YamlListing.Proofs.Terminal.Screen
import YamlListing.Proofs.Terminal.Strip
import YamlListing.Proofs.Terminal.Writer
import YamlListing.Proofs.Search.Columns
import YamlListing.Proofs.Search.Spans
import YamlListing.Proofs.Diff.View
import YamlListing.Proofs.Diff.Symmetry
import YamlListing.Proofs.Diff.Full
import YamlListing.Proofs.Diff.Windows
import YamlListing.Proofs.Diff.Summary
import YamlListing.Proofs.Span.Merge
import YamlListing.Proofs.Span.Union
import YamlListing.Proofs.Theme.Recipe
import YamlListing.Proofs.Theme.Client
import YamlListing.Proofs.Source.Recipe
import YamlListing.Proofs.Listing.Memory
import YamlListing.Proofs.Listing.Commute
import YamlListing.Proofs.Listing.Slice
import YamlListing.Proofs.Listing.Touched
import YamlListing.Proofs.Span.Bounds
import YamlListing.Proofs.Source.WellFormed
import YamlListing.Proofs.Yaml.Shift
import YamlListing.Proofs.Yaml.Documents
import YamlListing.Proofs.Style.Override
import YamlListing.Proofs.Style.Composition
import YamlListing.Proofs.Theme.Inheritance
import YamlListing.Proofs.Listing.Selection
import YamlListing.Proofs.Span.Order
import YamlListing.Proofs.Search.Session
import YamlListing.Proofs.Theme.Tweak
import YamlListing.Proofs.Unicode.Width
import YamlListing.Proofs.Listing.Tabs
import YamlListing.Proofs.Listing.Highlight
import YamlListing.Proofs.Listing.Restyle
import YamlListing.Proofs.Unicode.Tables
import YamlListing.Proofs.Unicode.Letters
import YamlListing.Proofs.Search.Refold
import YamlListing.Proofs.Source.Attach
import YamlListing.Proofs.Source.Clash
import YamlListing.Proofs.Source.Window
import YamlListing.Proofs.Source.Between
import YamlListing.Proofs.Source.Breaks
import YamlListing.Proofs.Yaml.Quoted
import YamlListing.Proofs.Yaml.Quoting
import YamlListing.Proofs.Yaml.Escapes
import YamlListing.Proofs.Yaml.Run
import YamlListing.Proofs.Yaml.Values
import YamlListing.Proofs.Yaml.BlockScalars
import YamlListing.Proofs.Text.Trim
import YamlListing.Proofs.Text.Numeral
import YamlListing.Proofs.Listing.LineRange
import YamlListing.Proofs.Listing.Gutter
import YamlListing.Proofs.Yaml.Brackets
import YamlListing.Proofs.Yaml.Nesting
import YamlListing.Proofs.Yaml.Progress
import YamlListing.Proofs.Span.Tiling
import YamlListing.Proofs.Listing.Overrun
import YamlListing.Proofs.Yaml.Visits
import YamlListing.Proofs.Yaml.Levels
