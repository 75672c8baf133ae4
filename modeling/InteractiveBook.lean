import InteractiveBook.CommandLine.FileTree
import InteractiveBook.Main
import InteractiveBook.Proofs.CommandLine.Batch
import InteractiveBook.Proofs.CommandLine.Build
import InteractiveBook.Proofs.CommandLine.Check
import InteractiveBook.Proofs.CommandLine.Place
import InteractiveBook.Proofs.CommandLine.Rivals
import InteractiveBook.Proofs.Compilation
import InteractiveBook.Proofs.Content.Accordion
import InteractiveBook.Proofs.Content.Column
import InteractiveBook.Proofs.Content.Draws
import InteractiveBook.Proofs.Content.Identifier
import InteractiveBook.Proofs.Content.ImageBlock
import InteractiveBook.Proofs.Content.Items
import InteractiveBook.Proofs.Content.ObjectJson
import InteractiveBook.Proofs.Content.Sharing
import InteractiveBook.Proofs.Content.Typing
import InteractiveBook.Proofs.Content.Visits
import InteractiveBook.Proofs.FrontEnds
import InteractiveBook.Proofs.Html.Attribute
import InteractiveBook.Proofs.Html.Escape
import InteractiveBook.Proofs.Html.FileName
import InteractiveBook.Proofs.Html.Leftmost
import InteractiveBook.Proofs.Html.Placeholder
import InteractiveBook.Proofs.Html.TableClass
import InteractiveBook.Proofs.Html.Tag
import InteractiveBook.Proofs.Images
import InteractiveBook.Proofs.JoinedSources
import InteractiveBook.Proofs.Json.Canonical
import InteractiveBook.Proofs.Json.Numeral
import InteractiveBook.Proofs.Json.RoundTrip
import InteractiveBook.Proofs.Library.Folder
import InteractiveBook.Proofs.Library.Insertion
import InteractiveBook.Proofs.Library.Resolution
import InteractiveBook.Proofs.Library.Table
import InteractiveBook.Proofs.Package.Assembly
import InteractiveBook.Proofs.Package.Damage
import InteractiveBook.Proofs.Package.Delivery
import InteractiveBook.Proofs.Package.Document
import InteractiveBook.Proofs.Package.OrderedMap
import InteractiveBook.Proofs.Package.Template
import InteractiveBook.Proofs.Package.Version
import InteractiveBook.Proofs.Package.WorkingCopy
import InteractiveBook.Proofs.PackageName
import InteractiveBook.Proofs.Recompilation
import InteractiveBook.Proofs.SameBook
import InteractiveBook.Proofs.Service.Compile
import InteractiveBook.Proofs.Service.SavedName
import InteractiveBook.Proofs.Source.Chapters
import InteractiveBook.Proofs.Source.ImageLine
import InteractiveBook.Proofs.Source.Joined
import InteractiveBook.Proofs.Source.Questions
import InteractiveBook.Proofs.Source.Segments
import InteractiveBook.Proofs.Source.Spans
import InteractiveBook.Proofs.Text.LineEnds
import InteractiveBook.Proofs.Text.Lines
import InteractiveBook.Proofs.Text.Path
import InteractiveBook.Proofs.Text.Utf8RoundTrip
import InteractiveBook.Proofs.Zip.EndRecord
import InteractiveBook.Proofs.Zip.Header
import InteractiveBook.Proofs.Zip.Intact
import InteractiveBook.Proofs.Zip.RoundTrip
import InteractiveBook.Service.Resource
