import Turnstile.Queue.Execution
import Turnstile.Server.Denial
import Turnstile.Server.RequestId

namespace Turnstile.Server

open Http

/-- A request that was admitted: its job, and what its answer needs of it. -/
structure Waiting where
  id : Nat
  method : Method
  headers : Headers
  deriving DecidableEq, Repr

inductive Reception where
  | answered (r : Response)
  | waiting (w : Waiting)
  deriving DecidableEq, Repr

def identified (request : Headers) (r : Response) : Response :=
  { r with headers := RequestId.propagate request r.headers }

def count (s : Server) (m : Method) (r : Response) : Server :=
  { s with metrics := s.metrics.countRequest m.text r.status }

def countDenial (s : Server) (m : Method) : Denial → Server
  | .unauthorized => { s with metrics := s.metrics.countUnauthorized }
  | .invalidTarget => s.count m Denial.invalidTarget.response
  | _ => s

def enqueue (s : Server) (m : Method) (headers : Headers) (j : Job) : Reception × Server :=
  match s.queue.submit j with
  | (.ok id, queue) => (.waiting ⟨id, m, headers⟩, { s with queue })
  | (.error e, queue) =>
    let r := e.refusal.response
    (.answered (identified headers r), { s with queue }.count m r)

/-- A request arrives; `fresh` is its identifier if it brings none. -/
def receive (s : Server) (fresh : Bytes) (r : Request) : Reception × Server :=
  let headers := RequestId.assign fresh r.headers
  match s.screen { r with headers } with
  | .ok j => s.enqueue r.method headers j
  | .error d => (.answered (identified headers d.response), s.countDenial r.method d)

def collect? (s : Server) (w : Waiting) : Option (Response × Server) :=
  ((s.queue.ticket? w.id).bind Queue.TicketState.response?).map fun r =>
    (identified w.headers r, { s with queue := s.queue.dropTicket w.id }.count w.method r)

def abandon (s : Server) (w : Waiting) : Server := { s with queue := s.queue.dropTicket w.id }

end Turnstile.Server
