import Turnstile.Http.Request
import Turnstile.Job
import Turnstile.Refusal
import Turnstile.Server.Basic

namespace Turnstile.Server

open Http

inductive Denial where
  | unauthorized
  | unrouted
  | tooLarge
  | invalidTarget
  deriving DecidableEq, Repr

def Denial.response : Denial → Response
  | unauthorized => Refusal.unauthorized.response
  | unrouted => .bare 404
  | tooLarge => .plain 413 "Failed to buffer the request body: length limit exceeded"
  | invalidTarget => Refusal.invalidTarget.response

/-- Every path has a route; a target that is no path has none. -/
def isRouted (target : Uri) : Bool := target.path.head? = some Uri.slash

def screen (s : Server) (r : Request) : Except Denial Job :=
  match s.gate.pass? r.headers with
  | none => .error .unauthorized
  | some headers =>
    if !isRouted r.target then .error .unrouted
    else if r.body.length > s.bodyLimit then .error .tooLarge
    else (Job.forTarget s.origin r.method r.target headers r.body).mapError fun _ => .invalidTarget

end Turnstile.Server
