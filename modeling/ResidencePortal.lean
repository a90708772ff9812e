import ResidencePortal.AllowList
import ResidencePortal.Backend.Address
import ResidencePortal.Backend.Call
import ResidencePortal.Backend.Endpoint
import ResidencePortal.Backend.Failure
import ResidencePortal.Backend.Reply
import ResidencePortal.Charset.Basic
import ResidencePortal.Charset.Big5Table
import ResidencePortal.Charset.Chinese
import ResidencePortal.Charset.CodePage
import ResidencePortal.Charset.Codes
import ResidencePortal.Charset.Decoder
import ResidencePortal.Charset.Gb18030Table
import ResidencePortal.Charset.Japanese
import ResidencePortal.Charset.Jis0208Table
import ResidencePortal.Charset.Jis0212Table
import ResidencePortal.Charset.Korean
import ResidencePortal.Charset.KoreanTable
import ResidencePortal.Charset.Label
import ResidencePortal.Cli.Arguments
import ResidencePortal.Cli.Command
import ResidencePortal.Cli.Report
import ResidencePortal.Config
import ResidencePortal.Credentials
import ResidencePortal.Domain.Label
import ResidencePortal.Domain.Mapping
import ResidencePortal.Domain.MappingTable
import ResidencePortal.Domain.Name
import ResidencePortal.Domain.Punycode
import ResidencePortal.Entries
import ResidencePortal.Fault
import ResidencePortal.Guard
import ResidencePortal.Html.Document
import ResidencePortal.Html.Template
import ResidencePortal.Html.View
import ResidencePortal.Json.Basic
import ResidencePortal.Json.Mismatch
import ResidencePortal.Json.Number
import ResidencePortal.Json.Printer
import ResidencePortal.Json.Reader
import ResidencePortal.Json.Record
import ResidencePortal.Main
import ResidencePortal.Menu
import ResidencePortal.Notice
import ResidencePortal.Numeric.Binary64
import ResidencePortal.Numeric.Power
import ResidencePortal.Numeric.Shortest
import ResidencePortal.Page
import ResidencePortal.Policy
import ResidencePortal.Proofs.Backend.RecordAddress
import ResidencePortal.Proofs.Backend.ReplyOutcome
import ResidencePortal.Proofs.Backend.ReplyText
import ResidencePortal.Proofs.Backend.WordAddress
import ResidencePortal.Proofs.Entries
import ResidencePortal.Proofs.Html.HiddenRegions
import ResidencePortal.Proofs.Html.LayoutText
import ResidencePortal.Proofs.Html.Markup
import ResidencePortal.Proofs.Html.RegionMark
import ResidencePortal.Proofs.Json.DepthLimit
import ResidencePortal.Proofs.Json.IntegerText
import ResidencePortal.Proofs.Json.ReaderParts
import ResidencePortal.Proofs.Json.RoundTrip
import ResidencePortal.Proofs.Json.Skipping
import ResidencePortal.Proofs.Json.StringText
import ResidencePortal.Proofs.Launch
import ResidencePortal.Proofs.Menu.Arrangement
import ResidencePortal.Proofs.Menu.Hiding
import ResidencePortal.Proofs.Menu.Offer
import ResidencePortal.Proofs.Menu.SortOrder
import ResidencePortal.Proofs.Registration
import ResidencePortal.Proofs.RoleNames
import ResidencePortal.Proofs.RolePhrases
import ResidencePortal.Proofs.RoleResolution
import ResidencePortal.Proofs.Session.LoginImage
import ResidencePortal.Proofs.Session.LoginStorage
import ResidencePortal.Proofs.Session.LoginView
import ResidencePortal.Proofs.Session.RoleCopies
import ResidencePortal.Proofs.Session.StoreAgreement
import ResidencePortal.Proofs.Text.ByteOrder
import ResidencePortal.Proofs.Text.CaseContext
import ResidencePortal.Proofs.Text.CaseImages
import ResidencePortal.Proofs.Text.PercentCoding
import ResidencePortal.Proofs.Text.Trimming
import ResidencePortal.Proofs.UserReaders
import ResidencePortal.Proofs.UserRecord
import ResidencePortal.Proofs.Web.BearerToken
import ResidencePortal.Proofs.Web.Denial
import ResidencePortal.Proofs.Web.LoginAnswer
import ResidencePortal.Proofs.Web.LoginState
import ResidencePortal.Proofs.Web.Outgoing
import ResidencePortal.Proofs.Web.PageContent
import ResidencePortal.Proofs.Web.PlainPath
import ResidencePortal.Proofs.Web.Rendering
import ResidencePortal.Proofs.Web.SessionEvent
import ResidencePortal.Proofs.Web.SessionHistory
import ResidencePortal.Proofs.Web.Traffic
import ResidencePortal.Regex.Basic
import ResidencePortal.Regex.CharClass
import ResidencePortal.Regex.Reader
import ResidencePortal.Regex.Search
import ResidencePortal.Region
import ResidencePortal.Registry
import ResidencePortal.Role
import ResidencePortal.Session.CookieStore
import ResidencePortal.Session.Key
import ResidencePortal.Session.Operation
import ResidencePortal.Session.Store
import ResidencePortal.Session.TextStore
import ResidencePortal.Session.Visitor
import ResidencePortal.Text.Blank
import ResidencePortal.Text.Case
import ResidencePortal.Text.CaseTable
import ResidencePortal.Text.Chars
import ResidencePortal.Text.Packed
import ResidencePortal.Text.Percent
import ResidencePortal.Text.PlainTable
import ResidencePortal.Text.Quoted
import ResidencePortal.Text.Utf8
import ResidencePortal.Unicode.BidiTable
import ResidencePortal.Unicode.Category
import ResidencePortal.Unicode.CategoryTable
import ResidencePortal.Unicode.CombiningTable
import ResidencePortal.Unicode.CompositionTable
import ResidencePortal.Unicode.Direction
import ResidencePortal.Unicode.Fold
import ResidencePortal.Unicode.Joining
import ResidencePortal.Unicode.JoiningTable
import ResidencePortal.Unicode.LetterTable
import ResidencePortal.Unicode.Normal
import ResidencePortal.Unicode.Property
import ResidencePortal.Unicode.ScriptTable
import ResidencePortal.Url.Basic
import ResidencePortal.Url.Encoding
import ResidencePortal.Url.Fault
import ResidencePortal.Url.Host
import ResidencePortal.Url.Ipv4
import ResidencePortal.Url.Ipv6
import ResidencePortal.Url.Path
import ResidencePortal.Url.Reader
import ResidencePortal.User
import ResidencePortal.Web.Form
import ResidencePortal.Web.Handler
import ResidencePortal.Web.MediaType
import ResidencePortal.Web.Message
import ResidencePortal.Web.Path
import ResidencePortal.Web.Route
import ResidencePortal.Web.Visit
