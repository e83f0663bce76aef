import Turnstile.Admin
import Turnstile.Queue.Execution

namespace Turnstile.Queue

/-- `awaited` are the calls, by their place among all calls, that end when the script says so; `auto` is the answer
that other calls get at once. The tickets are numbered in the order in which they were handed out. -/
structure Scenario where
  queue : Queue
  admin : Admin
  auto : Option Outcome := none
  awaited : List Nat := []
  tickets : List (Option Nat) := []

namespace Scenario

inductive Step where
  | idle
  | submit (job : Job)
  | burst (jobs : List Job)
  | handle (job : Job)
  | finish (call : Nat) (o : Outcome)
  | poll (ticket : Nat)
  | drop (ticket : Nat)
  | limits
  | auto (o : Option Outcome)
  | ask (method : Http.Method) (path : Bytes) (headers : Http.Headers)
  | stop
  | restart

inductive Result where
  | done
  | admitted (ticket id : Nat)
  | rejected (r : Rejection)
  | burst (ids : List (Option Nat))
  | waiting (ticket : Nat)
  | resolved (ticket : Nat) (r : Http.Response)
  | notRunning (call : Nat)
  | unresolved
  | gone
  | response (r : Http.Response)
  | flag (b : Bool)
  | limits (l : Config.Queue)

def issue (s : Scenario) (id : Option Nat) : Scenario := { s with tickets := s.tickets ++ [id] }

def submit (s : Scenario) (job : Job) : Result × Scenario :=
  match s.queue.submit job with
  | (.ok id, q) => (.admitted s.tickets.length id, { s with queue := q }.issue (some id))
  | (.error r, q) => (.rejected r, { s with queue := q })

/-- Submits jobs one after the other; without a runtime there is nothing to be told about each of them. -/
def burst (s : Scenario) : List Job → List (Option Nat) × Scenario
  | [] => ([], s)
  | job :: jobs =>
    match s.submit job with
    | (.admitted _ id, s) => let (ids, s) := burst s jobs; (some id :: ids, s)
    | (_, s) => let (ids, s) := burst s jobs; (none :: ids, s)

def handle (s : Scenario) (job : Job) : Result × Scenario :=
  match s.queue.submit job with
  | (.ok id, q) => (.waiting s.tickets.length, { s with queue := q }.issue (some id))
  | (.error r, q) => (.resolved s.tickets.length r.refusal.response, { s with queue := q }.issue none)

def finish (s : Scenario) (call : Nat) (o : Outcome) : Result × Scenario :=
  match (if s.awaited.contains call then s.queue.calls[call]? else none) with
  | some a => (.done, { s with queue := s.queue.endCall a.id o, awaited := s.awaited.erase call })
  | none => (.notRunning call, s)

def forget (s : Scenario) (ticket id : Nat) : Scenario :=
  { s with tickets := s.tickets.set ticket none, queue := s.queue.dropTicket id }

def poll (s : Scenario) (ticket : Nat) : Result × Scenario :=
  match (s.tickets[ticket]?).join with
  | none => (.gone, s)
  | some id =>
    match s.queue.poll id with
    | (some r, queue) => (.response r, { s with tickets := s.tickets.set ticket none, queue })
    | (none, _) => (.unresolved, s)

def drop (s : Scenario) (ticket : Nat) : Result × Scenario :=
  match (s.tickets[ticket]?).join with
  | none => (.flag false, s)
  | some id => (.flag true, s.forget ticket id)

def perform (s : Scenario) : Step → Result × Scenario
  | .idle => (.done, s)
  | .submit job => s.submit job
  | .burst jobs =>
    if s.queue.isRunning then
      let (ids, s) := s.burst jobs
      (.burst ids, s)
    else (.rejected .noRuntime, s)
  | .handle job => s.handle job
  | .finish call o => s.finish call o
  | .poll ticket => s.poll ticket
  | .drop ticket => s.drop ticket
  | .limits => (.limits s.queue.limits, s)
  | .auto o => (.done, { s with auto := o })
  | .ask method path headers => (.response (s.admin.respond s.queue.snapshot method path headers), s)
  | .stop => (.flag s.queue.isRunning, { s with queue := s.queue.stop })
  | .restart => (.done, { s with queue := s.queue.restart })

/-- Lets everything go on that can; calls without an automatic answer are awaited from then on. -/
def settle (s : Scenario) : Scenario :=
  let queue := s.queue.settle s.auto
  let started := List.range' s.queue.calls.length (queue.calls.length - s.queue.calls.length)
  { s with queue, awaited := if s.auto.isNone then s.awaited ++ started else s.awaited }

def step (s : Scenario) (x : Step) : (Result × List Admitted) × Scenario :=
  let (r, t) := s.perform x
  let t := t.settle
  ((r, t.queue.calls.drop s.queue.calls.length), t)

end Scenario

end Turnstile.Queue
