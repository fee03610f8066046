import HttpEngine.Address
import HttpEngine.Body.Content
import HttpEngine.Body.Form
import HttpEngine.Body.Multipart
import HttpEngine.Body.Parser
import HttpEngine.Body.Storage
import HttpEngine.Bytes
import HttpEngine.Calendar
import HttpEngine.Config.Dotenv
import HttpEngine.Config.Json
import HttpEngine.Config.Path
import HttpEngine.Config.Settings
import HttpEngine.Config.Value
import HttpEngine.Connection
import HttpEngine.Cookie
import HttpEngine.Double
import HttpEngine.Error.Basic
import HttpEngine.Error.Kind
import HttpEngine.Error.Rules
import HttpEngine.Error.Startup
import HttpEngine.Event.Basic
import HttpEngine.Event.Broadcast
import HttpEngine.Event.Callback
import HttpEngine.Event.Dispatcher
import HttpEngine.Event.Emitter
import HttpEngine.Event.Subscription
import HttpEngine.Handler
import HttpEngine.Header
import HttpEngine.Journal
import HttpEngine.ListenAddress
import HttpEngine.MediaType
import HttpEngine.Method
import HttpEngine.Params
import HttpEngine.Proofs.Body.Limit
import HttpEngine.Proofs.Body.Retention
import HttpEngine.Proofs.Dispatch.Order
import HttpEngine.Proofs.Error.Closest
import HttpEngine.Proofs.Error.Wrapping
import HttpEngine.Proofs.Event.Attendance
import HttpEngine.Proofs.Event.Delivery
import HttpEngine.Proofs.Event.Farewell
import HttpEngine.Proofs.Event.Forgery
import HttpEngine.Proofs.Event.Hub
import HttpEngine.Proofs.Event.Interleaving
import HttpEngine.Proofs.Event.Membership
import HttpEngine.Proofs.Event.Reentry
import HttpEngine.Proofs.Event.Removal
import HttpEngine.Proofs.Event.RoundTrip
import HttpEngine.Proofs.Handler.Fallthrough
import HttpEngine.Proofs.Handler.Nesting
import HttpEngine.Proofs.Message.Framing
import HttpEngine.Proofs.Message.Head
import HttpEngine.Proofs.Message.Tokens
import HttpEngine.Proofs.Multipart.Buffer
import HttpEngine.Proofs.Multipart.Chunking
import HttpEngine.Proofs.Multipart.Enforcement
import HttpEngine.Proofs.Multipart.Keys
import HttpEngine.Proofs.Multipart.Outline
import HttpEngine.Proofs.Multipart.PartHead
import HttpEngine.Proofs.Multipart.RoundTrip
import HttpEngine.Proofs.Readiness.Forgotten
import HttpEngine.Proofs.Route.Allow
import HttpEngine.Proofs.Route.Answers
import HttpEngine.Proofs.Route.Glob
import HttpEngine.Proofs.Route.Guard
import HttpEngine.Proofs.Route.Names
import HttpEngine.Proofs.Route.Reorder
import HttpEngine.Proofs.Route.Selection
import HttpEngine.Proofs.Route.Substitution
import HttpEngine.Proofs.Sequence.Cut
import HttpEngine.Proofs.Service.Exchange
import HttpEngine.Proofs.Service.Failures
import HttpEngine.Proofs.Service.PathSpelling
import HttpEngine.Proofs.Stream.Desertion
import HttpEngine.Proofs.Stream.Reading
import HttpEngine.Proofs.Text.Utf8
import HttpEngine.Proofs.Text.Visible
import HttpEngine.Proofs.Uri.Spelling
import HttpEngine.Proofs.WebSocket.Order
import HttpEngine.Proofs.WebSocket.Straggling
import HttpEngine.Proofs.WorkerPool.Counters
import HttpEngine.Proofs.WorkerPool.Stranding
import HttpEngine.Readiness
import HttpEngine.Request
import HttpEngine.Response
import HttpEngine.Route.Glob
import HttpEngine.Route.PathFilter
import HttpEngine.Route.Pattern
import HttpEngine.Route.Router
import HttpEngine.Server
import HttpEngine.Status
import HttpEngine.Stream.ChunkSink
import HttpEngine.Stream.Device
import HttpEngine.Stream.FileReader
import HttpEngine.Stream.Producer
import HttpEngine.Stream.Written
import HttpEngine.Text.Alphanumeric
import HttpEngine.Text.Blank
import HttpEngine.Text.Numeral
import HttpEngine.Text.Printable
import HttpEngine.Text.Quoted
import HttpEngine.Text.Scalar
import HttpEngine.Text.Utf8
import HttpEngine.Uri.Percent
import HttpEngine.Uri.Query
import HttpEngine.Uri.Target
import HttpEngine.WebSocket.Digest
import HttpEngine.WebSocket.Disconnection
import HttpEngine.WebSocket.Exchange
import HttpEngine.WebSocket.Frame
import HttpEngine.WebSocket.Handshake
import HttpEngine.WebSocket.Script
import HttpEngine.WebSocket.Session
import HttpEngine.WorkerPool
