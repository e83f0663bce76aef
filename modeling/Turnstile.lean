import Turnstile.Bytes
import Turnstile.Json.Reader
import Turnstile.Json.Writer
import Turnstile.Http.Method
import Turnstile.Http.Uri
import Turnstile.Http.Response
import Turnstile.Address.Socket
import Turnstile.Host.Domain
import Turnstile.Url.Reader
import Turnstile.Job
import Turnstile.Gate
import Turnstile.Refusal
import Turnstile.Duration
import Turnstile.Server.RequestId
import Turnstile.Toml.Reader
import Turnstile.Config.File
import Turnstile.Lifecycle.Broadcast
import Turnstile.Queue.Execution
import Turnstile.Queue.Scenario
import Turnstile.Metrics
import Turnstile.Forward
import Turnstile.Server.Scenario
import Turnstile.Lifecycle.Startup
import Turnstile.Lifecycle.Watch
import Turnstile.Client
import Turnstile.Command.Operator
import Turnstile.Main
import Turnstile.Proofs.Queue.Slots
import Turnstile.Proofs.Queue.Fifo
import Turnstile.Proofs.Queue.Delivery
import Turnstile.Proofs.Queue.Conservation
import Turnstile.Proofs.Queue.Launch
import Turnstile.Proofs.Queue.Shutdown
import Turnstile.Proofs.Queue.Succession
import Turnstile.Proofs.Queue.Restart
import Turnstile.Proofs.Queue.Emptying
import Turnstile.Proofs.Queue.Watching
import Turnstile.Proofs.Server.Precedence
import Turnstile.Proofs.Server.Forwarding
import Turnstile.Proofs.Url.Host
import Turnstile.Proofs.Url.Path
import Turnstile.Proofs.Url.Origin
import Turnstile.Proofs.Http.Uri
import Turnstile.Proofs.Server.Destination
import Turnstile.Proofs.Server.Service
import Turnstile.Proofs.Lifecycle.Startup
import Turnstile.Proofs.Admin
import Turnstile.Proofs.Queue.Gauges
import Turnstile.Proofs.Queue.Overtaking
import Turnstile.Proofs.Lifecycle.Watch
import Turnstile.Proofs.Gate
import Turnstile.Proofs.Client
import Turnstile.Proofs.Queue.Closing
import Turnstile.Proofs.Queue.Snapshots
import Turnstile.Proofs.Queue.Resolved
import Turnstile.Proofs.Http.Hop
import Turnstile.Proofs.Server.Confinement
import Turnstile.Proofs.Config.Omission
import Turnstile.Proofs.Queue.Burst
import Turnstile.Proofs.Url.Place
import Turnstile.Proofs.Server.Adhesion
import Turnstile.Proofs.Queue.Panics
import Turnstile.Proofs.Server.DotSegments
import Turnstile.Proofs.Config.Secret
