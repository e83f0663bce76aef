import Turnstile.Server.Exchange
import Turnstile.Server.Framing

namespace Turnstile.Server

open Http

/-- A request by its job, if it was admitted; `waiting` ends with the answer or when the caller goes away. -/
structure Entry where
  id : Option Nat
  waiting : Option Waiting

/-- `awaited` are the calls, by their place among all calls, that end when the script says so; `auto` is the answer
that other calls get at once. The requests are numbered in the order in which they came. -/
structure Scenario where
  server : Server
  auto : Option Outcome := none
  awaited : List Nat := []
  requests : List Entry := []

namespace Scenario

inductive Step where
  | malformed
  | request (fresh : Bytes) (r : Request)
  | finish (call : Nat) (o : Outcome)
  | disconnect (request : Nat)

inductive Result where
  | answered (request : Nat) (r : Response)
  | waiting (request : Nat)
  | finished (request : Nat) (r : Option Response)
  | notRunning (call : Nat)
  | disconnected (existed : Bool)

def settle (s : Scenario) : Scenario :=
  let queue := s.server.queue.settle s.auto
  let before := s.server.queue.calls.length
  let started := List.range' before (queue.calls.length - before)
  { s with
    server := { s.server with queue }
    awaited := if s.auto.isNone then s.awaited ++ started else s.awaited }

/-- Delivers the answers that are there, each with the number of its request. -/
def deliver (server : Server) (number : Nat) : List Entry → List (Nat × Response) × Server × List Entry
  | [] => ([], server, [])
  | e :: rest =>
    match e.waiting.bind server.collect? with
    | some (r, server) =>
      let r := (e.waiting.map fun w => framed w.method r).getD r
      let (answers, server, rest) := deliver server (number + 1) rest
      ((number, r) :: answers, server, { e with waiting := none } :: rest)
    | none =>
      let (answers, server, rest) := deliver server (number + 1) rest
      (answers, server, e :: rest)

def advance (s : Scenario) : List (Nat × Response) × Scenario :=
  let s := s.settle
  let (answers, server, requests) := deliver s.server 0 s.requests
  (answers, { s with server, requests })

def answerTo (number : Nat) (answers : List (Nat × Response)) : Option Response :=
  (answers.find? (·.1 = number)).map (·.2)

def request (s : Scenario) (fresh : Bytes) (r : Request) : Result × Scenario :=
  let number := s.requests.length
  match s.server.receive fresh r with
  | (.answered a, server) =>
    let (_, s) := { s with server, requests := s.requests ++ [Entry.mk none none] }.advance
    (.answered number (framed r.method a), s)
  | (.waiting w, server) =>
    let (answers, s) := { s with server, requests := s.requests ++ [Entry.mk (some w.id) (some w)] }.advance
    match answerTo number answers with
    | some a => (.answered number a, s)
    | none => (.waiting number, s)

def malformed (s : Scenario) : Result × Scenario :=
  (.answered s.requests.length (framed .get (.bare 400)), { s with requests := s.requests ++ [Entry.mk none none] })

def running? (s : Scenario) (call : Nat) : Option Queue.Admitted :=
  if s.awaited.contains call then s.server.queue.calls[call]? else none

def finish (s : Scenario) (call : Nat) (o : Outcome) : Result × Scenario :=
  match s.running? call with
  | none => (.notRunning call, s)
  | some a =>
    let queue := s.server.queue.endCall a.id o
    let (answers, s) := { s with server := { s.server with queue }, awaited := s.awaited.erase call }.advance
    let number := s.requests.findIdx (·.id = some a.id)
    (.finished number (answerTo number answers), s)

def disconnect (s : Scenario) (number : Nat) : Result × Scenario :=
  match s.requests[number]? with
  | some ⟨id, some w⟩ =>
    (.disconnected true,
      { s with server := s.server.abandon w, requests := s.requests.set number ⟨id, none⟩ })
  | _ => (.disconnected false, s)

def perform (s : Scenario) : Step → Result × Scenario
  | .malformed => s.malformed
  | .request fresh r => s.request fresh r
  | .finish call o => s.finish call o
  | .disconnect number => s.disconnect number

def step (s : Scenario) (x : Step) : (Result × List Queue.Admitted) × Scenario :=
  let (r, t) := s.perform x
  ((r, t.server.queue.calls.drop s.server.queue.calls.length), t)

end Scenario

end Turnstile.Server
