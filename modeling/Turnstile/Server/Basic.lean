import Turnstile.Config.Basic
import Turnstile.Gate
import Turnstile.Metrics
import Turnstile.Origin

namespace Turnstile

structure Server where
  origin : Url
  gate : Gate
  bodyLimit : Nat
  queue : Queue
  metrics : Metrics := {}
  deriving DecidableEq, Repr

namespace Server

inductive Problem where
  | origin (p : Origin.Problem)
  | headerName
  deriving DecidableEq, Repr

def Problem.message : Problem → String
  | origin p => "invalid upstream origin: " ++ p.message
  | headerName => "invalid credential header name: " ++ Http.Headers.Problem.name.message

/-- The gateway that a configuration describes; the origin is looked at first. -/
def ofConfig (c : Config) : Except Problem Server :=
  match Origin.parse c.forwarding.origin with
  | .error p => .error (.origin p)
  | .ok origin =>
    match Http.HeaderName.parse? (Bytes.ofString c.auth.headerName) with
    | none => .error .headerName
    | some header =>
      .ok ⟨origin, ⟨header, .ofSecret c.auth.secret⟩, c.security.maxBodySize.toNat, .new c.queue, {}⟩

end Server

end Turnstile
