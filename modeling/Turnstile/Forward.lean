import Turnstile.Http.Hop
import Turnstile.Job
import Turnstile.Queue.Outcome

namespace Turnstile.Forward

/-- What becomes of a request on the other side: no connection, a connection that is closed or stays silent instead of an
answer, an answer that breaks off, or a whole answer. -/
inductive Reply where
  | refused
  | closed
  | silent
  | broken (reason : String)
  | response (r : Http.Response)
  deriving DecidableEq, Repr

def outbound (j : Job) : Job := { j with headers := j.headers.beyondHop }

def inbound (r : Http.Response) : Http.Response := { r with headers := r.headers.beyondHop }

def isZero (d : Duration) : Bool := d.seconds = 0 && d.nanoseconds = 0

def settle (deadline : Duration) (reply : Reply) : Except CallError Http.Response :=
  match reply with
  | .refused => .error (.transport "client error (Connect)")
  | .closed => .error (if isZero deadline then .timeout deadline else .transport "client error (SendRequest)")
  | .silent => .error (.timeout deadline)
  | .broken reason => .error (if isZero deadline then .timeout deadline else .body reason)
  | .response r => if isZero deadline then .error (.timeout deadline) else .ok (inbound r)

def call (deadline : Duration) (peer : Job → Reply) (j : Job) : Except CallError Http.Response :=
  settle deadline (peer (outbound j))

def outcome (deadline : Duration) (peer : Job → Reply) (j : Job) : Outcome :=
  match call deadline peer j with
  | .ok r => .response r
  | .error e => .error e

end Turnstile.Forward
