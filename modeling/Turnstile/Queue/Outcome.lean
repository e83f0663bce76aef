import Turnstile.Duration
import Turnstile.Refusal

namespace Turnstile

/-- Why the origin could not be asked, or gave no complete answer. -/
inductive CallError where
  | timeout (deadline : Duration)
  | transport (reason : String)
  | body (reason : String)
  | tls (reason : String)
  deriving DecidableEq, Repr

def CallError.message : CallError → String
  | timeout d => "upstream call exceeded deadline of " ++ d.text
  | transport reason => "upstream transport error: " ++ reason
  | body reason => "failed reading upstream body: " ++ reason
  | tls reason => "TLS setup failed: " ++ reason

inductive Outcome where
  | response (r : Http.Response)
  | error (e : CallError)
  | panic
  deriving DecidableEq, Repr

namespace Outcome

def isFailure : Outcome → Bool
  | response _ => false
  | _ => true

def answer : Outcome → Http.Response
  | response r => r
  | _ => Refusal.unavailable.response

end Outcome

end Turnstile
