import Turnstile.Config.Basic
import Turnstile.Job
import Turnstile.Queue.Outcome

namespace Turnstile.Queue

structure Admitted where
  id : Nat
  job : Job
  deriving DecidableEq, Repr

def Admitted.name (a : Admitted) : String := "job-" ++ toString (UInt64.ofNat a.id).toNat

inductive Launcher where
  | submission (id : Nat)
  | release (id : Nat)
  deriving DecidableEq, Repr

/-- How far the task of a claimed job has come. A task that goes away, because it was discarded before its call or in the
middle of it or because the call has crashed, has dropped its reply and not yet its slot. -/
inductive Stage where
  | claimed (launcher : Launcher)
  | spawned
  | calling
  | ended (o : Outcome)
  | counted (o : Outcome)
  | recorded (o : Outcome)
  | released (o : Outcome)
  | discarded (called : Bool)
  | crashed
  deriving DecidableEq, Repr

def Stage.holdsSlot : Stage → Bool
  | released _ => false
  | _ => true

def Stage.isLeaving : Stage → Bool
  | discarded _ | crashed => true
  | _ => false

structure Task where
  admitted : Admitted
  stage : Stage
  deriving DecidableEq, Repr

def Task.id (t : Task) : Nat := t.admitted.id

inductive TicketState where
  | waiting
  | answered (r : Http.Response)
  | abandoned
  deriving DecidableEq, Repr

structure Ticket where
  id : Nat
  state : TicketState
  deriving DecidableEq, Repr

def TicketState.response? : TicketState → Option Http.Response
  | waiting => none
  | answered r => some r
  | abandoned => some Refusal.unavailable.response

structure Totals where
  admitted : Nat := 0
  rejected : Nat := 0
  completed : Nat := 0
  failed : Nat := 0
  deriving DecidableEq, Repr

/-- The queue at one moment, as operators see it. Totals are words that start again after 2^64. -/
structure Snapshot where
  pending : Nat
  inFlight : Nat
  maxConcurrency : UInt64
  maxQueueSize : UInt64
  admitted : UInt64
  rejected : UInt64
  completed : UInt64
  failed : UInt64
  deriving DecidableEq, Repr

structure Measures where
  gauges : Option (Nat × Nat) := none
  rejected : Nat := 0
  failed : Nat := 0
  waits : Nat := 0
  deriving DecidableEq, Repr

inductive Lane where
  | outside
  | inside
  deriving DecidableEq, Repr

structure Ready where
  id : Nat
  lane : Lane
  deriving DecidableEq, Repr

structure Runtime where
  looks : Nat := 0
  ready : List Ready := []
  deriving DecidableEq, Repr

inductive Reading where
  | none
  | begun (pending inFlight : Nat)
  | admitted (pending inFlight : Nat) (admitted : Nat)
  | rejected (pending inFlight : Nat) (admitted rejected : Nat)
  | completed (pending inFlight : Nat) (admitted rejected completed : Nat)
  deriving DecidableEq, Repr

end Turnstile.Queue

namespace Turnstile

/-- `pending` and `inFlight` are what the lock guards. `drawn` are the numbers of submissions that have not got to the
queue yet, `refusing` counts submissions that found it full and are not counted yet; `calls` are the jobs whose call has
started, in that order; `peak` is the most calls that ever ran at once. -/
structure Queue where
  limits : Config.Queue
  runtime : Option Queue.Runtime := some {}
  nextId : Nat := 1
  drawn : List Nat := []
  pending : List Queue.Admitted := []
  inFlight : Nat := 0
  totals : Queue.Totals := {}
  tasks : List Queue.Task := []
  tickets : List Queue.Ticket := []
  calls : List Queue.Admitted := []
  refusing : Nat := 0
  reading : Queue.Reading := .none
  measures : Queue.Measures := {}
  peak : Nat := 0
  deriving DecidableEq, Repr

namespace Queue

def new (limits : Config.Queue) : Queue := { limits }

def slots (q : Queue) : Nat := q.limits.maxConcurrency.toNat

def room (q : Queue) : Nat := q.limits.maxQueueSize.toNat

def isRunning (q : Queue) : Bool := q.runtime.isSome

def task? (q : Queue) (id : Nat) : Option Task := q.tasks.find? (·.id == id)

def stage? (q : Queue) (id : Nat) : Option Stage := (q.task? id).map Task.stage

def ticket? (q : Queue) (id : Nat) : Option TicketState := (q.tickets.find? (·.id == id)).map Ticket.state

def snapshot (q : Queue) : Snapshot where
  pending := q.pending.length
  inFlight := q.inFlight
  maxConcurrency := q.limits.maxConcurrency
  maxQueueSize := q.limits.maxQueueSize
  admitted := UInt64.ofNat q.totals.admitted
  rejected := UInt64.ofNat q.totals.rejected
  completed := UInt64.ofNat q.totals.completed
  failed := UInt64.ofNat q.totals.failed

def running (q : Queue) : List Task := q.tasks.filter (·.stage = .calling)

def holding (q : Queue) : List Task := q.tasks.filter (·.stage.holdsSlot)

end Queue

end Turnstile
