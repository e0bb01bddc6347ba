import WlanAdmin.Client.Call
import WlanAdmin.Client.Connection
import WlanAdmin.Client.Error
import WlanAdmin.Client.Resources
import WlanAdmin.Client.Settings
import WlanAdmin.Domain.Ascii
import WlanAdmin.Domain.CodeRange
import WlanAdmin.Domain.Composition
import WlanAdmin.Domain.Direction
import WlanAdmin.Domain.Joiner
import WlanAdmin.Domain.Mapping
import WlanAdmin.Domain.MappingTable
import WlanAdmin.Domain.PropertyTable
import WlanAdmin.Domain.Punycode
import WlanAdmin.Envelope.Error
import WlanAdmin.Envelope.Request
import WlanAdmin.Envelope.Response
import WlanAdmin.Envelope.StatResponse
import WlanAdmin.Envelope.WellFormed
import WlanAdmin.Field.Codec
import WlanAdmin.Field.Flag
import WlanAdmin.Field.HardwareAddress
import WlanAdmin.Field.Instant
import WlanAdmin.Field.QueuePriority
import WlanAdmin.Field.Schedule
import WlanAdmin.Field.Security
import WlanAdmin.Field.Series
import WlanAdmin.Html.Arena
import WlanAdmin.Html.Body
import WlanAdmin.Html.Builder
import WlanAdmin.Html.Category
import WlanAdmin.Html.Choice
import WlanAdmin.Html.Doctype
import WlanAdmin.Html.Entity
import WlanAdmin.Html.Foreign
import WlanAdmin.Html.Formatting
import WlanAdmin.Html.Frames
import WlanAdmin.Html.Head
import WlanAdmin.Html.Lexer
import WlanAdmin.Html.Node
import WlanAdmin.Html.Parse
import WlanAdmin.Html.Reference
import WlanAdmin.Html.Table
import WlanAdmin.Html.Tag
import WlanAdmin.Html.Token
import WlanAdmin.Http.Cookie
import WlanAdmin.Http.CookieDate
import WlanAdmin.Http.Error
import WlanAdmin.Http.Exchange
import WlanAdmin.Http.Message
import WlanAdmin.Http.Settings
import WlanAdmin.Http.Wire
import WlanAdmin.Network.Scripted
import WlanAdmin.Page.LoginPage
import WlanAdmin.Page.Script
import WlanAdmin.Proofs.Client.Account
import WlanAdmin.Proofs.Client.Answer
import WlanAdmin.Proofs.Client.AnswerLimit
import WlanAdmin.Proofs.Client.Arguments
import WlanAdmin.Proofs.Client.Coalescing
import WlanAdmin.Proofs.Client.Course
import WlanAdmin.Proofs.Client.Fetch
import WlanAdmin.Proofs.Client.Freshness
import WlanAdmin.Proofs.Client.Hosts
import WlanAdmin.Proofs.Client.Password
import WlanAdmin.Proofs.Client.Script
import WlanAdmin.Proofs.Domain.Ascii
import WlanAdmin.Proofs.Domain.CodeTable
import WlanAdmin.Proofs.Domain.Composition
import WlanAdmin.Proofs.Domain.Mapping
import WlanAdmin.Proofs.Domain.Marks
import WlanAdmin.Proofs.Domain.Punycode
import WlanAdmin.Proofs.Envelope.Decode
import WlanAdmin.Proofs.Envelope.Depth
import WlanAdmin.Proofs.Envelope.Request
import WlanAdmin.Proofs.Envelope.Root
import WlanAdmin.Proofs.Envelope.StatResponse
import WlanAdmin.Proofs.Envelope.Truncation
import WlanAdmin.Proofs.Envelope.WellFormed
import WlanAdmin.Proofs.Field.HardwareAddress
import WlanAdmin.Proofs.Field.Number
import WlanAdmin.Proofs.Field.Schedule
import WlanAdmin.Proofs.Field.ScheduleLayout
import WlanAdmin.Proofs.Field.ScheduleText
import WlanAdmin.Proofs.Field.Series
import WlanAdmin.Proofs.Html.LevelOrder
import WlanAdmin.Proofs.Http.BodyLimit
import WlanAdmin.Proofs.Http.Redirects
import WlanAdmin.Proofs.Page.Outcome
import WlanAdmin.Proofs.Page.Rejection
import WlanAdmin.Proofs.Page.Script
import WlanAdmin.Proofs.Page.Token
import WlanAdmin.Proofs.Record.Codecs
import WlanAdmin.Proofs.Record.Coded
import WlanAdmin.Proofs.Record.Listing
import WlanAdmin.Proofs.Record.Payload
import WlanAdmin.Proofs.Record.Transfer
import WlanAdmin.Proofs.Record.Wlan
import WlanAdmin.Proofs.Session.Absence
import WlanAdmin.Proofs.Session.Advance
import WlanAdmin.Proofs.Session.Apart
import WlanAdmin.Proofs.Session.Cancellation
import WlanAdmin.Proofs.Session.Gate
import WlanAdmin.Proofs.Session.History
import WlanAdmin.Proofs.Session.LoginForm
import WlanAdmin.Proofs.Session.Moves
import WlanAdmin.Proofs.Session.Provenance
import WlanAdmin.Proofs.Session.Repinning
import WlanAdmin.Proofs.Session.Requests
import WlanAdmin.Proofs.Session.SingleFlight
import WlanAdmin.Proofs.Session.State
import WlanAdmin.Proofs.Text.Decimal
import WlanAdmin.Proofs.Text.Digits
import WlanAdmin.Proofs.Text.Fault
import WlanAdmin.Proofs.Text.InTurn
import WlanAdmin.Proofs.Text.Integer
import WlanAdmin.Proofs.Text.Numeral
import WlanAdmin.Proofs.Text.Replacement
import WlanAdmin.Proofs.Text.Utf8
import WlanAdmin.Proofs.Url.Authority
import WlanAdmin.Proofs.Url.Directory
import WlanAdmin.Proofs.Url.Endpoint
import WlanAdmin.Proofs.Url.Ip
import WlanAdmin.Proofs.Xml.Balanced
import WlanAdmin.Proofs.Xml.Elements
import WlanAdmin.Proofs.Xml.Escaping
import WlanAdmin.Proofs.Xml.Matched
import WlanAdmin.Proofs.Xml.Reads
import WlanAdmin.Proofs.Xml.Tree
import WlanAdmin.Proofs.Xml.Written
import WlanAdmin.Record.Content
import WlanAdmin.Record.Field
import WlanAdmin.Record.Shape
import WlanAdmin.Record.Station
import WlanAdmin.Record.Sysinfo
import WlanAdmin.Record.Wlan
import WlanAdmin.Record.WlanStatus
import WlanAdmin.Session.Basic
import WlanAdmin.Session.Context
import WlanAdmin.Session.Error
import WlanAdmin.Session.Gate
import WlanAdmin.Session.Login
import WlanAdmin.Session.Step
import WlanAdmin.Session.Watch
import WlanAdmin.Text.Bytes
import WlanAdmin.Text.Digits
import WlanAdmin.Text.Integer
import WlanAdmin.Text.Printable
import WlanAdmin.Text.Quoted
import WlanAdmin.Text.Replacement
import WlanAdmin.Url.Basic
import WlanAdmin.Url.Endpoint
import WlanAdmin.Url.Form
import WlanAdmin.Url.Ip
import WlanAdmin.Url.Join
import WlanAdmin.Url.Parse
import WlanAdmin.Url.Percent
import WlanAdmin.Xml.Attribute
import WlanAdmin.Xml.Element
import WlanAdmin.Xml.Lexeme
import WlanAdmin.Xml.Matched
import WlanAdmin.Xml.Node
import WlanAdmin.Xml.Reference
import WlanAdmin.Xml.Scan
