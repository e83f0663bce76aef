import Turnstile.Config.Basic
import Turnstile.Document

namespace Turnstile.Config

/-- Where the formats that documents come from differ: whether a list may be longer than its section, and which value
stands for nothing beside the name of a choice. -/
structure Format where
  boundedLists : Bool
  isUnit : Document → Bool

def Format.json : Format := ⟨true, fun d => d == .null⟩

def Format.toml : Format := ⟨false, fun d => d == .table [] || d == .list []⟩

/-- Access to the fields of a section by name, if the document can be that section. -/
def fields? (f : Format) (names : List String) : Document → Option (String → Option Document)
  | .table entries => some fun k => Document.lookup? k entries
  | .list items =>
    if f.boundedLists && items.length > names.length then none
    else some fun k => (names.idxOf? k).bind (items[·]?)
  | .moment _ => some fun _ => none
  | _ => none

def orDefault {α : Type} (default : α) (read : Document → Option α) : Option Document → Option α
  | none => some default
  | some d => read d

def text? : Document → Option String
  | .text s => some s
  | _ => none

def flag? : Document → Option Bool
  | .bool b => some b
  | _ => none

/-- A whole number of 64 bits without a sign. -/
def word? : Document → Option UInt64
  | .integer (.ofNat n) => if n < 0x10000000000000000 then some (UInt64.ofNat n) else none
  | _ => none

def secret? : Document → Option (Option String)
  | .null => some none
  | .text s => some (some s)
  | _ => none

def LogFormat.ofName? : String → Option LogFormat
  | "pretty" => some .pretty
  | "json" => some .json
  | _ => none

def LogFormat.name : LogFormat → String
  | pretty => "pretty"
  | json => "json"

def logFormat? (f : Format) : Document → Option LogFormat
  | .text s => LogFormat.ofName? s
  | .table [(s, d)] => if f.isUnit d then LogFormat.ofName? s else none
  | _ => none

def Listener.decode? (f : Format) (d : Document) : Option Listener := do
  let field ← fields? f ["bind_address"] d
  let bindAddress ← orDefault ({} : Listener).bindAddress text? (field "bind_address")
  some { bindAddress }

def Forwarding.decode? (f : Format) (d : Document) : Option Forwarding := do
  let field ← fields? f ["origin", "connect_timeout_secs", "request_timeout_secs"] d
  let origin ← orDefault ({} : Forwarding).origin text? (field "origin")
  let connectTimeout ← orDefault ({} : Forwarding).connectTimeout word? (field "connect_timeout_secs")
  let requestTimeout ← orDefault ({} : Forwarding).requestTimeout word? (field "request_timeout_secs")
  some { origin, connectTimeout, requestTimeout }

def Queue.decode? (f : Format) (d : Document) : Option Queue := do
  let field ← fields? f ["max_concurrency", "max_queue_size"] d
  let maxConcurrency ← orDefault ({} : Queue).maxConcurrency word? (field "max_concurrency")
  let maxQueueSize ← orDefault ({} : Queue).maxQueueSize word? (field "max_queue_size")
  some { maxConcurrency, maxQueueSize }

def Auth.decode? (f : Format) (d : Document) : Option Auth := do
  let field ← fields? f ["header_name", "secret"] d
  let headerName ← orDefault ({} : Auth).headerName text? (field "header_name")
  let secret ← orDefault ({} : Auth).secret secret? (field "secret")
  some { headerName, secret }

def Security.decode? (f : Format) (d : Document) : Option Security := do
  let field ← fields? f ["max_body_size"] d
  let maxBodySize ← orDefault ({} : Security).maxBodySize word? (field "max_body_size")
  some { maxBodySize }

def Observability.decode? (f : Format) (d : Document) : Option Observability := do
  let field ← fields? f ["log_level", "log_format", "metrics_enabled", "metrics_address"] d
  let logLevel ← orDefault ({} : Observability).logLevel text? (field "log_level")
  let logFormat ← orDefault ({} : Observability).logFormat (logFormat? f) (field "log_format")
  let metricsEnabled ← orDefault ({} : Observability).metricsEnabled flag? (field "metrics_enabled")
  let metricsAddress ← orDefault ({} : Observability).metricsAddress text? (field "metrics_address")
  some { logLevel, logFormat, metricsEnabled, metricsAddress }

def Admin.decode? (f : Format) (d : Document) : Option Admin := do
  let field ← fields? f ["enabled", "api_key", "bind_address"] d
  let enabled ← orDefault ({} : Admin).enabled flag? (field "enabled")
  let apiKey ← orDefault ({} : Admin).apiKey text? (field "api_key")
  let bindAddress ← orDefault ({} : Admin).bindAddress text? (field "bind_address")
  some { enabled, apiKey, bindAddress }

def decode? (f : Format) (d : Document) : Option Config := do
  let field ← fields? f ["listener", "upstream", "queue", "auth", "security", "observability", "admin"] d
  let listener ← orDefault {} (Listener.decode? f) (field "listener")
  let forwarding ← orDefault {} (Forwarding.decode? f) (field "upstream")
  let queue ← orDefault {} (Queue.decode? f) (field "queue")
  let auth ← orDefault {} (Auth.decode? f) (field "auth")
  let security ← orDefault {} (Security.decode? f) (field "security")
  let observability ← orDefault {} (Observability.decode? f) (field "observability")
  let admin ← orDefault {} (Admin.decode? f) (field "admin")
  some { listener, forwarding, queue, auth, security, observability, admin }

def word (n : UInt64) : Document := .ofNat n.toNat

def Listener.encode (c : Listener) : Document := .table [("bind_address", .text c.bindAddress)]

def Forwarding.encode (c : Forwarding) : Document :=
  .table [("origin", .text c.origin), ("connect_timeout_secs", word c.connectTimeout),
    ("request_timeout_secs", word c.requestTimeout)]

def Queue.encode (c : Queue) : Document :=
  .table [("max_concurrency", word c.maxConcurrency), ("max_queue_size", word c.maxQueueSize)]

def Auth.encode (c : Auth) : Document :=
  .table [("header_name", .text c.headerName),
    ("secret", match c.secret with | some s => .text s | none => .null)]

def Security.encode (c : Security) : Document := .table [("max_body_size", word c.maxBodySize)]

def Observability.encode (c : Observability) : Document :=
  .table [("log_level", .text c.logLevel), ("log_format", .text c.logFormat.name),
    ("metrics_enabled", .bool c.metricsEnabled), ("metrics_address", .text c.metricsAddress)]

def Admin.encode (c : Admin) : Document :=
  .table [("enabled", .bool c.enabled), ("api_key", .text c.apiKey), ("bind_address", .text c.bindAddress)]

def encode (c : Config) : Document :=
  .table [("listener", c.listener.encode), ("upstream", c.forwarding.encode), ("queue", c.queue.encode),
    ("auth", c.auth.encode), ("security", c.security.encode), ("observability", c.observability.encode),
    ("admin", c.admin.encode)]

end Turnstile.Config
