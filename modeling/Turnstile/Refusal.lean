import Turnstile.Http.Response

namespace Turnstile

inductive Refusal where
  | unauthorized
  | queueFull
  | unavailable
  | invalidTarget
  deriving DecidableEq, Repr

namespace Refusal

def status : Refusal → Nat
  | unauthorized => 401
  | queueFull => 503
  | unavailable => 502
  | invalidTarget => 400

def message : Refusal → String
  | unauthorized => "Unauthorized"
  | queueFull => "queue limit exceeded"
  | unavailable => "Upstream error"
  | invalidTarget => "Invalid request target"

def response (r : Refusal) : Http.Response := .plain r.status r.message

end Refusal

/-- Why a job was not admitted. -/
inductive Rejection where
  | full (pending limit : Nat)
  | noRuntime
  deriving DecidableEq, Repr

namespace Rejection

def message : Rejection → String
  | full pending limit => s!"queue limit exceeded ({pending} pending, limit {limit})"
  | noRuntime => "no tokio runtime to execute jobs"

def refusal : Rejection → Refusal
  | full _ _ => .queueFull
  | noRuntime => .unavailable

end Rejection

end Turnstile
