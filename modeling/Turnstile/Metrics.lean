import Turnstile.Queue.Basic

namespace Turnstile

/-- What the gateway measures beside its queue: answers by method and status, and refused callers. -/
structure Metrics where
  requests : List ((String × Nat) × Nat) := []
  unauthorized : Nat := 0
  deriving DecidableEq, Repr

namespace Metrics

def countRequest (m : Metrics) (method : String) (status : Nat) : Metrics :=
  if m.requests.any (·.1 = (method, status)) then
    { m with requests := m.requests.map fun r => if r.1 = (method, status) then (r.1, r.2 + 1) else r }
  else { m with requests := m.requests ++ [((method, status), 1)] }

def countUnauthorized (m : Metrics) : Metrics := { m with unauthorized := m.unauthorized + 1 }

def line (name : String) (n : Nat) : String := name ++ " " ++ toString n

def touched (name : String) (n : Nat) : List String := if n = 0 then [] else [line name n]

def escapedLabel (s : String) : String :=
  String.ofList (s.toList.flatMap fun c =>
    if c = '\\' then ['\\', '\\'] else if c = '"' then ['\\', '"'] else if c = '\n' then ['\\', 'n'] else [c])

def requestLine (r : (String × Nat) × Nat) : String :=
  "proxy_requests_total\x7bmethod=\"" ++ escapedLabel r.1.1 ++ "\",status=\"" ++ toString r.1.2 ++ "\"\x7d " ++
    toString r.2

def queueLines (q : Queue.Measures) : List String :=
  (match q.gauges with
    | some (pending, inFlight) => [line "proxy_queue_pending" pending, line "proxy_queue_in_flight" inFlight]
    | none => []) ++
  touched "proxy_queue_rejected_total" q.rejected ++
  touched "proxy_upstream_failures_total" q.failed ++
  touched "proxy_queue_wait_seconds_count" q.waits

def requestLines (m : Metrics) : List String :=
  m.requests.map requestLine ++
  touched "proxy_request_duration_seconds_count" (m.requests.foldl (fun n r => n + r.2) 0) ++
  touched "proxy_unauthorized_total" m.unauthorized

def lines (m : Metrics) (q : Queue.Measures) : List String :=
  (requestLines m ++ queueLines q).mergeSort (fun a b => a ≤ b)

end Metrics

end Turnstile
