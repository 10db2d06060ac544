import NodeEditor.Canvas.Actions
import NodeEditor.Canvas.Canvas
import NodeEditor.Canvas.Clipboard
import NodeEditor.Canvas.Curl
import NodeEditor.Canvas.Graph
import NodeEditor.Canvas.Icons
import NodeEditor.Canvas.Node
import NodeEditor.Canvas.Rendering
import NodeEditor.Canvas.Store
import NodeEditor.Catalog.Catalog
import NodeEditor.Catalog.Handle
import NodeEditor.Catalog.Kind
import NodeEditor.Catalog.NodeType
import NodeEditor.Catalog.Outline
import NodeEditor.Catalog.Property
import NodeEditor.Decimal.Binary64
import NodeEditor.Decimal.Reading
import NodeEditor.Decimal.Shortest
import NodeEditor.Form.Derivation
import NodeEditor.Form.Engine
import NodeEditor.Form.NumberLabel
import NodeEditor.Form.Rules
import NodeEditor.Form.SourceText
import NodeEditor.Form.Values
import NodeEditor.Form.Widget
import NodeEditor.Id
import NodeEditor.Inspector.Arguments
import NodeEditor.Inspector.CommandLine
import NodeEditor.Inspector.Commands
import NodeEditor.Inspector.Environment
import NodeEditor.Inspector.Exit
import NodeEditor.Inspector.Folder
import NodeEditor.Json.Basic
import NodeEditor.Json.Dict
import NodeEditor.Json.Fault
import NodeEditor.Json.NumberReader
import NodeEditor.Json.Reader
import NodeEditor.Json.Shape
import NodeEditor.Json.Writer
import NodeEditor.Live.Actions
import NodeEditor.Live.Backend
import NodeEditor.Live.Clock
import NodeEditor.Live.Controller
import NodeEditor.Live.Notification
import NodeEditor.Live.Rehearsal
import NodeEditor.Live.Scrape
import NodeEditor.Live.Session
import NodeEditor.Live.Settings
import NodeEditor.Live.Timer
import NodeEditor.Live.WebAddress
import NodeEditor.Main
import NodeEditor.Pattern.Estimate
import NodeEditor.Pattern.Reader
import NodeEditor.Pattern.Reading
import NodeEditor.Pattern.Regex
import NodeEditor.Pattern.Sets
import NodeEditor.Text.Blank
import NodeEditor.Text.Case
import NodeEditor.Text.CaseTable
import NodeEditor.Text.Category
import NodeEditor.Text.CategoryTable
import NodeEditor.Text.Intervals
import NodeEditor.Text.Quoted
import NodeEditor.Text.ScriptTable
import NodeEditor.Time.Moment
import NodeEditor.Time.Reading
import NodeEditor.Proofs.Canvas.Clipboard
import NodeEditor.Proofs.Canvas.Desk
import NodeEditor.Proofs.Canvas.Document
import NodeEditor.Proofs.Canvas.Fragment
import NodeEditor.Proofs.Canvas.Handles
import NodeEditor.Proofs.Canvas.Paste
import NodeEditor.Proofs.Canvas.Run
import NodeEditor.Proofs.Canvas.WellFormed
import NodeEditor.Proofs.Json.Dict
import NodeEditor.Proofs.Json.Echo
import NodeEditor.Proofs.Json.NumberText
import NodeEditor.Proofs.Json.Reread
import NodeEditor.Proofs.Form.Conform
import NodeEditor.Proofs.Form.Derivation
import NodeEditor.Proofs.Form.Edit
import NodeEditor.Proofs.Canvas.Refusal
import NodeEditor.Proofs.Live.Session
import NodeEditor.Proofs.Canvas.Sharing
import NodeEditor.Proofs.Live.Errand
import NodeEditor.Proofs.Live.Scene
import NodeEditor.Proofs.Live.Unmounted
import NodeEditor.Proofs.Live.Countdown
import NodeEditor.Proofs.Live.Listening
import NodeEditor.Proofs.Live.Rehearsal
import NodeEditor.Proofs.Canvas.Curl
import NodeEditor.Proofs.Json.Extent
import NodeEditor.Proofs.Live.Charge
import NodeEditor.Proofs.Live.Scraping
import NodeEditor.Proofs.Canvas.Overlay
import NodeEditor.Proofs.Live.Troupe
import NodeEditor.Proofs.Live.Succession
import NodeEditor.Proofs.Live.Notices
import NodeEditor.Proofs.Live.Tickers
import NodeEditor.Proofs.Form.Hydrate
import NodeEditor.Proofs.Live.Secrets
import NodeEditor.Proofs.Form.Report
import NodeEditor.Proofs.Form.WellTyped
import NodeEditor.Proofs.Form.Address
import NodeEditor.Proofs.Form.Passwords
import NodeEditor.Proofs.Canvas.Connecting
import NodeEditor.Proofs.Form.Reconform
import NodeEditor.Proofs.Catalog.Loading
import NodeEditor.Proofs.Json.Rearrange
import NodeEditor.Proofs.Json.Sound
import NodeEditor.Proofs.Json.Record
import NodeEditor.Proofs.Json.ReadBack
import NodeEditor.Proofs.Catalog.Property
import NodeEditor.Proofs.Catalog.Descriptor
import NodeEditor.Proofs.Decimal.Finite
import NodeEditor.Proofs.Json.Stored
import NodeEditor.Proofs.Canvas.Removal
import NodeEditor.Proofs.Canvas.FlatData
import NodeEditor.Proofs.Form.Frame
import NodeEditor.Proofs.Decimal.Exact
import NodeEditor.Proofs.Form.Slider
import NodeEditor.Proofs.Catalog.Containment
import NodeEditor.Proofs.Form.Undeclared
import NodeEditor.Proofs.Form.Editors
import NodeEditor.Proofs.Pattern.Matching
import NodeEditor.Proofs.Pattern.Local
import NodeEditor.Proofs.Pattern.Readers
import NodeEditor.Proofs.Pattern.Enclosed
import NodeEditor.Proofs.Form.WholeValue
import NodeEditor.Proofs.Canvas.Layout
import NodeEditor.Proofs.Live.Clock
import NodeEditor.Proofs.Text.Parts
import NodeEditor.Proofs.Live.ScrapeRequest
import NodeEditor.Proofs.Live.WebAddress
import NodeEditor.Proofs.Live.Endpoint
import NodeEditor.Proofs.Canvas.Icons
import NodeEditor.Proofs.Canvas.Headers
import NodeEditor.Proofs.Form.Tabs
