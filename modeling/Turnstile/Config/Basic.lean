namespace Turnstile.Config

structure Listener where
  bindAddress : String := "0.0.0.0:8080"
  deriving DecidableEq, Repr

/-- The origin and two deadlines in seconds. -/
structure Forwarding where
  origin : String := ""
  connectTimeout : UInt64 := 5
  requestTimeout : UInt64 := 30
  deriving DecidableEq, Repr

structure Queue where
  maxConcurrency : UInt64 := 2
  maxQueueSize : UInt64 := 50
  deriving DecidableEq, Repr

structure Auth where
  headerName : String := "x-proxy-secret"
  secret : Option String := none
  deriving DecidableEq, Repr

structure Security where
  maxBodySize : UInt64 := 10485760
  deriving DecidableEq, Repr

inductive LogFormat where
  | pretty
  | json
  deriving DecidableEq, Repr

structure Observability where
  logLevel : String := "info"
  logFormat : LogFormat := .pretty
  metricsEnabled : Bool := false
  metricsAddress : String := "0.0.0.0:9090"
  deriving DecidableEq, Repr

structure Admin where
  enabled : Bool := false
  apiKey : String := ""
  bindAddress : String := "127.0.0.1:8081"
  deriving DecidableEq, Repr

end Turnstile.Config

namespace Turnstile

structure Config where
  listener : Config.Listener := {}
  forwarding : Config.Forwarding := {}
  queue : Config.Queue := {}
  auth : Config.Auth := {}
  security : Config.Security := {}
  observability : Config.Observability := {}
  admin : Config.Admin := {}
  deriving DecidableEq, Repr

end Turnstile
