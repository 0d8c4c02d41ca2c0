import WebviewBridge.Catalog.Custom
import WebviewBridge.Host.Crew
import WebviewBridge.Json.Canonical
import WebviewBridge.Loopback
import WebviewBridge.Main
import WebviewBridge.Proofs.Messenger.Books
import WebviewBridge.Proofs.Messenger.Turns
import WebviewBridge.Proofs.Messenger.Correlation
import WebviewBridge.Proofs.Host.Running
import WebviewBridge.Proofs.Host.Handlers
import WebviewBridge.Proofs.Host.Replies
import WebviewBridge.Proofs.Host.Serving
import WebviewBridge.Proofs.Host.Floor
import WebviewBridge.Proofs.Host.Tokens
import WebviewBridge.Proofs.Host.Story
import WebviewBridge.Proofs.Json.Leaves
import WebviewBridge.Proofs.Json.Texts
import WebviewBridge.Proofs.App.Reachable
import WebviewBridge.Proofs.Catalog.Submission
import WebviewBridge.Proofs.Envelope.RoundTrip
import WebviewBridge.Proofs.Host.Once
import WebviewBridge.Proofs.Messenger.Outstanding
import WebviewBridge.Proofs.Messenger.Telling
import WebviewBridge.Proofs.Host.Sessions
import WebviewBridge.Proofs.Webview.Traffic
import WebviewBridge.Proofs.Webview.Loopback
import WebviewBridge.Proofs.Config.Environment
import WebviewBridge.Proofs.Host.Discretion
import WebviewBridge.Proofs.Host.Refused
import WebviewBridge.Proofs.Crew.Announcing
import WebviewBridge.Proofs.Host.Routing
import WebviewBridge.Proofs.Catalog.RoundTrip
import WebviewBridge.Proofs.Config.Settings
import WebviewBridge.Proofs.Files.Directories
import WebviewBridge.Proofs.Config.Stored
import WebviewBridge.Proofs.App.Writers
import WebviewBridge.Proofs.Json.Refusals
import WebviewBridge.Proofs.Messenger.Reported
import WebviewBridge.Proofs.Catalog.ExecutePlan
import WebviewBridge.Proofs.Crew.Trace
import WebviewBridge.Proofs.Crew.Linear
import WebviewBridge.Proofs.Files.Strokes
import WebviewBridge.Proofs.Crew.Turns
import WebviewBridge.Proofs.Crew.Storing
import WebviewBridge.Proofs.Host.Drafting
import WebviewBridge.Proofs.Messenger.Posting
import WebviewBridge.Proofs.Webview.Lifetime
import WebviewBridge.Proofs.Files.Untouched
import WebviewBridge.Proofs.App.Starting
import WebviewBridge.Proofs.Json.Passing
import WebviewBridge.Proofs.Json.Verdicts
import WebviewBridge.Proofs.Json.Layouts
import WebviewBridge.Proofs.Envelope.Shapes
import WebviewBridge.Proofs.Host.Taking
import WebviewBridge.Proofs.Files.Home
