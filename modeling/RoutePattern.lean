import RoutePattern.Text
import RoutePattern.Text.Utf8
import RoutePattern.Text.Percent
import RoutePattern.Unicode.RangeSet
import RoutePattern.Unicode.Alphabetic
import RoutePattern.Unicode.Number
import RoutePattern.Unicode.GraphemeExtend
import RoutePattern.Unicode.Unprintable
import RoutePattern.Segment
import RoutePattern.Pattern
import RoutePattern.Pattern.Parser
import RoutePattern.Pattern.Build
import RoutePattern.NameMap
import RoutePattern.Reader
import RoutePattern.Text.Digits
import RoutePattern.Toml.Number
import RoutePattern.Toml.Moment
import RoutePattern.Toml.Quotation
import RoutePattern.Toml.Tree
import RoutePattern.Toml.Document
import RoutePattern.Toml.Routes
import RoutePattern.Files
import RoutePattern.Table
import RoutePattern.Text.Quoted
import RoutePattern.Json
import RoutePattern.Command.Listing
import RoutePattern.Command.Report
import RoutePattern.Command.Printing
import RoutePattern.Command.Arguments
import RoutePattern.Command
import RoutePattern.Main
import RoutePattern.Proofs.Classification
import RoutePattern.Proofs.Grammar
import RoutePattern.Proofs.WrittenForm
import RoutePattern.Proofs.Placement
import RoutePattern.Proofs.Injectivity
import RoutePattern.Proofs.Mounting
import RoutePattern.Proofs.Substitution
import RoutePattern.Proofs.Escapes
import RoutePattern.Proofs.Reading
import RoutePattern.Proofs.Rendering
import RoutePattern.Proofs.Naming
import RoutePattern.Proofs.Arity
import RoutePattern.Proofs.TrailingSlash
import RoutePattern.Proofs.Spelling
import RoutePattern.Proofs.Decoding
import RoutePattern.Proofs.ByteOrder
import RoutePattern.Proofs.PartialEscapes
import RoutePattern.Proofs.Bindings
import RoutePattern.Proofs.DistinctNames
import RoutePattern.Proofs.PathAlone
import RoutePattern.Proofs.Loading
import RoutePattern.Proofs.TableHistory
import RoutePattern.Proofs.Reloading
import RoutePattern.Proofs.UpdateOrder
import RoutePattern.Proofs.MissingValues
import RoutePattern.Proofs.CommandReversal
import RoutePattern.Proofs.RepeatedDecoding
import RoutePattern.Proofs.Shapes
import RoutePattern.Proofs.SourceEnd
import RoutePattern.Proofs.JsonReader
import RoutePattern.Proofs.JsonReadBack
import RoutePattern.Proofs.PatternJson
import RoutePattern.Proofs.Printing
import RoutePattern.Proofs.UrlAnswer
import RoutePattern.Proofs.Quoting
import RoutePattern.Proofs.Layout
import RoutePattern.Proofs.SegmentLines
import RoutePattern.Proofs.OneRoute
import RoutePattern.Proofs.TableListing
