import Turnstile.Admin
import Turnstile.Lifecycle.Machine
import Turnstile.Server.Basic

namespace Turnstile.Lifecycle.Startup

open Address

inductive Problem where
  | address (value : String)
  | metrics (p : BindProblem)
  | server (p : Server.Problem)
  | listener (p : BindProblem)
  deriving DecidableEq, Repr

def Problem.message : Problem → String
  | address value => "invalid address '" ++ value ++ "'"
  | metrics p => "metrics exporter: failed to create HTTP listener: " ++ p.message
  | server p => p.message
  | listener p => "IO error: " ++ p.message

/-- What is running after a start. -/
structure Service where
  server : Server
  admin : Option Admin
  listening : List Socket
  deriving DecidableEq, Repr

def address (value : String) : Except Problem Socket :=
  match Socket.parse? value with
  | some a => .ok a
  | none => .error (.address value)

def listen (m : Machine) (wrap : BindProblem → Problem) (value : String) (taken : List Socket) :
    Except Problem (List Socket) :=
  match address value with
  | .error p => .error p
  | .ok a => (m.bind taken a).mapError wrap

def listenIf (enabled : Bool) (m : Machine) (wrap : BindProblem → Problem) (value : String) (taken : List Socket) :
    Except Problem (List Socket) :=
  if enabled then listen m wrap value taken else .ok taken

def admin? (c : Config) : Option Admin :=
  if c.admin.enabled then some ⟨c.admin.apiKey, c.forwarding.origin⟩ else none

def run (m : Machine) (c : Config) : Except Problem Service := do
  let taken ← listenIf c.observability.metricsEnabled m .metrics c.observability.metricsAddress []
  let server ← (Server.ofConfig c).mapError .server
  let taken ← listenIf c.admin.enabled m .listener c.admin.bindAddress taken
  let taken ← listen m .listener c.listener.bindAddress taken
  .ok ⟨server, admin? c, taken⟩

/-- A start in which encrypted calls have to be set up before the gateway is built. -/
inductive Fault where
  | startup (p : Problem)
  | encryption (e : CallError)
  deriving DecidableEq, Repr

def runSecured (secure : Except CallError Unit) (m : Machine) (c : Config) : Except Fault Service := do
  let _ ← (listenIf c.observability.metricsEnabled m .metrics c.observability.metricsAddress []).mapError .startup
  secure.mapError .encryption
  (run m c).mapError .startup

end Turnstile.Lifecycle.Startup
