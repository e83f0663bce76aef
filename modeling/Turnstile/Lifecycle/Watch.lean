import Turnstile.Lifecycle.Broadcast

namespace Turnstile.Lifecycle.Watch

/-- What the starting task does, in the order of `acts`. -/
inductive Act where
  | subscribeAdmin
  | bindListener
  | spawnWatcher
  | subscribeServer
  | serve
  deriving DecidableEq, Repr

def acts (admin : Bool) : List Act :=
  (if admin then [.subscribeAdmin] else []) ++ [.bindListener, .spawnWatcher, .subscribeServer, .serve]

inductive Watcher where
  | absent
  | waiting
  | signalled
  | done
  deriving DecidableEq, Repr

/-- `server` is the receiver that the gateway was given. -/
structure Start where
  channel : Broadcast := {}
  ahead : List Act
  watcher : Watcher := .absent
  server : Option Nat := none
  serving : Bool := false
  deriving DecidableEq, Repr

def Start.begin (admin : Bool) : Start := { ahead := acts admin }

def Start.perform (s : Start) : Act → Start
  | .subscribeAdmin => { s with channel := s.channel.subscribe }
  | .bindListener => s
  | .spawnWatcher => { s with channel := s.channel.copyHandle, watcher := .waiting }
  | .subscribeServer => { s with server := some s.channel.receivers.length, channel := s.channel.subscribe }
  | .serve => { s with serving := true }

inductive Turn where
  | starter
  | signal
  | trigger
  deriving DecidableEq, Repr

def Start.turn? (s : Start) : Turn → Option Start
  | .starter =>
    match s.ahead with
    | [] => none
    | a :: rest => some { s.perform a with ahead := rest }
  | .signal => if s.watcher = .waiting then some { s with watcher := .signalled } else none
  | .trigger => if s.watcher = .signalled then some { s with watcher := .done, channel := s.channel.trigger } else none

def Start.turns? (s : Start) : List Turn → Option Start
  | [] => some s
  | t :: rest => (s.turn? t).bind fun s => s.turns? rest

def Start.observed? (s : Start) : Option Reception :=
  (s.server.bind s.channel.passed?).map fun passed => (s.channel.next passed).1

def Start.isTold (s : Start) : Bool :=
  match s.observed? with
  | some .signal => true
  | some (.lagged _) => true
  | _ => false

end Turnstile.Lifecycle.Watch
