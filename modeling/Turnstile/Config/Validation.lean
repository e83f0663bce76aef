import Turnstile.Address.Socket
import Turnstile.Config.Basic
import Turnstile.Http.Header
import Turnstile.Origin

namespace Turnstile.Config

inductive Problem where
  | address (field value : String)
  | origin (p : Origin.Problem)
  | zero (field : String)
  | headerName (value : String)
  | adminKey
  deriving DecidableEq, Repr

def Problem.message : Problem → String
  | address field value => field ++ ": invalid socket address '" ++ value ++ "'"
  | origin p => p.message
  | zero field => field ++ " must be greater than zero"
  | headerName value => "auth.header_name: invalid header name '" ++ value ++ "'"
  | adminKey => "admin.api_key must be set when the admin API is enabled"

def checkAddress (field value : String) : List Problem :=
  if (Address.Socket.parse? value).isSome then [] else [.address field value]

def checkOrigin (value : String) : List Problem :=
  match Origin.parse value with
  | .ok _ => []
  | .error p => [.origin p]

def checkPositive (field : String) (n : UInt64) : List Problem := if n = 0 then [.zero field] else []

def checkHeaderName (value : String) : List Problem :=
  if (Http.HeaderName.parse? (Bytes.ofString value)).isSome then [] else [.headerName value]

def checkAdminKey (key : String) : List Problem := if key.isEmpty then [.adminKey] else []

def onlyIf (enabled : Bool) (ps : List Problem) : List Problem := if enabled then ps else []

def problems (c : Config) : List Problem :=
  checkAddress "listener.bind_address" c.listener.bindAddress ++
  checkOrigin c.forwarding.origin ++
  checkPositive "upstream.connect_timeout_secs" c.forwarding.connectTimeout ++
  checkPositive "upstream.request_timeout_secs" c.forwarding.requestTimeout ++
  checkPositive "queue.max_concurrency" c.queue.maxConcurrency ++
  checkPositive "queue.max_queue_size" c.queue.maxQueueSize ++
  checkHeaderName c.auth.headerName ++
  checkPositive "security.max_body_size" c.security.maxBodySize ++
  onlyIf c.observability.metricsEnabled
    (checkAddress "observability.metrics_address" c.observability.metricsAddress) ++
  onlyIf c.admin.enabled (checkAddress "admin.bind_address" c.admin.bindAddress) ++
  onlyIf c.admin.enabled (checkAdminKey c.admin.apiKey)

def isValid (c : Config) : Bool := c.problems.isEmpty

end Turnstile.Config
