import Crontab.Checked
import Crontab.CodePoint
import Crontab.Decimal
import Crontab.Diagnostic
import Crontab.Diagnostic.Fields
import Crontab.Document
import Crontab.Editor
import Crontab.Editor.Framework
import Crontab.Entry
import Crontab.Field
import Crontab.Field.Name
import Crontab.Highlight
import Crontab.Hover
import Crontab.Json
import Crontab.Json.Bytes
import Crontab.Json.Reader
import Crontab.Json.Writer
import Crontab.Launch
import Crontab.Line
import Crontab.Log
import Crontab.Main
import Crontab.Measure
import Crontab.Numeral
import Crontab.Numeral.Signed
import Crontab.Position
import Crontab.Proofs.Agreement
import Crontab.Proofs.Anchors
import Crontab.Proofs.Editor.Bounds
import Crontab.Proofs.Editor.Publication
import Crontab.Proofs.Editor.Session
import Crontab.Proofs.Entry.Layout
import Crontab.Proofs.Highlight
import Crontab.Proofs.Highlight.Canonical
import Crontab.Proofs.Highlight.Stream
import Crontab.Proofs.Hover
import Crontab.Proofs.Json.Size
import Crontab.Proofs.Layout
import Crontab.Proofs.Line.Breaks
import Crontab.Proofs.Line.Locality
import Crontab.Proofs.Line.Spelling
import Crontab.Proofs.Numeral
import Crontab.Proofs.Place
import Crontab.Proofs.Register
import Crontab.Proofs.Store.Columns
import Crontab.Proofs.Store.Held
import Crontab.Proofs.Store.History
import Crontab.Proofs.Store.Hovering
import Crontab.Proofs.Store.Lookup
import Crontab.Proofs.Store.Refinement
import Crontab.Proofs.Store.Restriction
import Crontab.Proofs.Store.Shown
import Crontab.Proofs.Term.Errors
import Crontab.Proofs.Term.Geometry
import Crontab.Proofs.Term.Language
import Crontab.Proofs.Term.Values
import Crontab.Proofs.Text.Pieces
import Crontab.Proofs.Tokenize
import Crontab.Proofs.Verdict
import Crontab.Proofs.Web.Address
import Crontab.Proofs.Web.Atomic
import Crontab.Proofs.Web.Effect
import Crontab.Proofs.Web.Ids
import Crontab.Proofs.Web.Independence
import Crontab.Proofs.Web.Limit
import Crontab.Proofs.Web.Reach
import Crontab.Proofs.Web.Size
import Crontab.Proofs.Web.Unnamed
import Crontab.Proofs.Web.Views
import Crontab.Register
import Crontab.Settings
import Crontab.Settings.Arguments
import Crontab.Settings.CommandLine
import Crontab.Settings.EnvFile
import Crontab.Settings.Flags
import Crontab.Settings.Location
import Crontab.Settings.Misuse
import Crontab.Settings.Options
import Crontab.SignedPosition
import Crontab.Step
import Crontab.Store
import Crontab.Store.Command
import Crontab.Term
import Crontab.Text
import Crontab.Text.Blank
import Crontab.Text.CaseRun
import Crontab.Text.Cased
import Crontab.Text.Charset
import Crontab.Text.CodePage
import Crontab.Text.CodePage.Dos
import Crontab.Text.CodePage.Iso
import Crontab.Text.CodePage.Mac
import Crontab.Text.CodePage.Mainframe
import Crontab.Text.CodePage.Regional
import Crontab.Text.CodePage.Windows
import Crontab.Text.Decimals
import Crontab.Text.Escapes
import Crontab.Text.Hex
import Crontab.Text.Hz
import Crontab.Text.Identifier
import Crontab.Text.Idna
import Crontab.Text.Iso2022
import Crontab.Text.Layout
import Crontab.Text.Lowercase
import Crontab.Text.MultiByte
import Crontab.Text.MultiByte.Chinese
import Crontab.Text.MultiByte.Japanese
import Crontab.Text.MultiByte.Korean
import Crontab.Text.Names
import Crontab.Text.Names.Aliases
import Crontab.Text.Names.Ancient
import Crontab.Text.Names.Eastern
import Crontab.Text.Names.Letters
import Crontab.Text.Names.Marks
import Crontab.Text.Names.Pictures
import Crontab.Text.Names.Scripts
import Crontab.Text.Names.Symbols
import Crontab.Text.Plane
import Crontab.Text.Plane.Big
import Crontab.Text.Plane.Gb
import Crontab.Text.Plane.Hong
import Crontab.Text.Plane.Jis
import Crontab.Text.Plane.JisMore
import Crontab.Text.Plane.JisSecond
import Crontab.Text.Plane.Ks
import Crontab.Text.Plane.Makers
import Crontab.Text.Prepared
import Crontab.Text.Prepared.Changed
import Crontab.Text.Prepared.Combining
import Crontab.Text.Prepared.Composites
import Crontab.Text.Prepared.Direction
import Crontab.Text.Printable
import Crontab.Text.Punycode
import Crontab.Text.Quoted
import Crontab.Text.Reading
import Crontab.Text.Units
import Crontab.Text.Uppercase
import Crontab.Text.Utf7
import Crontab.Text.Utf8
import Crontab.Token
import Crontab.Value
import Crontab.Web.App
import Crontab.Web.Body
import Crontab.Web.Framework
import Crontab.Web.Limit
import Crontab.Web.Percent
import Crontab.Web.Query
import Crontab.Web.Request
import Crontab.Web.Response
import Crontab.Web.Route
