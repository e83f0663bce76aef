import Turnstile.Queue.Basic

namespace Turnstile.Queue

def setStage (q : Queue) (id : Nat) (s : Stage) : Queue :=
  { q with tasks := q.tasks.map fun t => if t.id = id then { t with stage := s } else t }

/-- Hands free slots to the jobs that have waited longest. Without a runtime nothing is handed out. -/
def claim (launcher : Launcher) (q : Queue) : Queue :=
  if q.isRunning then
    let n := min (q.slots - q.inFlight) q.pending.length
    { q with
      pending := q.pending.drop n
      inFlight := q.inFlight + n
      tasks := q.tasks ++ (q.pending.take n).map fun a => ⟨a, .claimed launcher⟩
      measures := { q.measures with gauges := some (q.pending.length - n, q.inFlight + n) } }
  else q

theorem claim_of_stopped {q : Queue} (h : q.isRunning = false) (launcher : Launcher) : q.claim launcher = q := by
  simp [claim, h]

theorem inFlight_claim {q : Queue} (h : q.isRunning = true) (launcher : Launcher) :
    (q.claim launcher).inFlight = q.inFlight + min (q.slots - q.inFlight) q.pending.length := by
  simp [claim, h]

theorem pending_claim {q : Queue} (h : q.isRunning = true) (launcher : Launcher) :
    (q.claim launcher).pending = q.pending.drop (min (q.slots - q.inFlight) q.pending.length) := by
  simp [claim, h]

theorem tasks_claim {q : Queue} (h : q.isRunning = true) (launcher : Launcher) : (q.claim launcher).tasks =
    q.tasks ++ (q.pending.take (min (q.slots - q.inFlight) q.pending.length)).map fun a =>
      ⟨a, .claimed launcher⟩ := by
  simp [claim, h]

theorem pending_claim_eq_nil_or {q : Queue} (h : q.isRunning = true) (launcher : Launcher) :
    (q.claim launcher).pending = [] ∨ q.slots ≤ (q.claim launcher).inFlight := by
  rw [pending_claim h, inFlight_claim h]
  by_cases hl : q.pending.length ≤ q.slots - q.inFlight
  · left
    simp [Nat.min_eq_right hl]
  · right
    omega

def draw (q : Queue) : Queue := { q with nextId := q.nextId + 1, drawn := q.drawn ++ [q.nextId] }

def enter (id : Nat) (job : Job) (q : Queue) : Queue :=
  { q with
    drawn := q.drawn.erase id
    pending := q.pending ++ [⟨id, job⟩]
    totals := { q.totals with admitted := q.totals.admitted + 1 }
    tickets := q.tickets ++ [⟨id, .waiting⟩] }

def accept (id : Nat) (job : Job) (q : Queue) : Queue := claim (.submission id) (q.enter id job)

def refuse (id : Nat) (q : Queue) : Queue := { q with drawn := q.drawn.erase id, refusing := q.refusing + 1 }

def submitSection (id : Nat) (job : Job) (q : Queue) : Except Rejection Nat × Queue :=
  if q.pending.length ≥ q.room then (.error (.full q.pending.length q.room), q.refuse id)
  else (.ok id, q.accept id job)

def countRefusal (q : Queue) : Queue :=
  { q with
    refusing := q.refusing - 1
    totals := { q.totals with rejected := q.totals.rejected + 1 }
    measures := { q.measures with rejected := q.measures.rejected + 1 } }

def Launcher.lane : Launcher → Lane
  | submission _ => .outside
  | release _ => .inside

def enqueue (id : Nat) (lane : Lane) (q : Queue) : Queue :=
  { q with runtime := q.runtime.map fun r => { r with ready := r.ready ++ [⟨id, lane⟩] } }

def dequeue (id : Nat) (q : Queue) : Queue :=
  { q with runtime := q.runtime.map fun r => { r with ready := r.ready.eraseP (·.id == id) } }

def claimedBy (q : Queue) (launcher : Launcher) : List Nat :=
  (q.tasks.filter (·.stage = .claimed launcher)).map Task.id

def spawn (launcher : Launcher) (id : Nat) (q : Queue) : Queue := (q.setStage id .spawned).enqueue id launcher.lane

def start (id : Nat) (q : Queue) : Queue :=
  match q.task? id with
  | none => q
  | some t =>
    let q := q.setStage id .calling
    { q with
      calls := q.calls ++ [t.admitted]
      measures := { q.measures with waits := q.measures.waits + 1 }
      peak := max q.peak q.running.length }

def finish (id : Nat) (o : Outcome) (q : Queue) : Queue := q.setStage id (.ended o)

def countEnd (id : Nat) (o : Outcome) (q : Queue) : Queue :=
  { q.setStage id (.counted o) with totals := { q.totals with completed := q.totals.completed + 1 } }

def countFailure (id : Nat) (o : Outcome) (q : Queue) : Queue :=
  let q := q.setStage id (.recorded o)
  if o.isFailure then
    { q with
      totals := { q.totals with failed := q.totals.failed + 1 }
      measures := { q.measures with failed := q.measures.failed + 1 } }
  else q

def free (id : Nat) (o : Outcome) (q : Queue) : Queue :=
  { q.setStage id (.released o) with inFlight := q.inFlight - 1 }

def release (id : Nat) (o : Outcome) (q : Queue) : Queue := claim (.release id) (q.free id o)

def resolve (id : Nat) (s : TicketState) (q : Queue) : Queue :=
  { q with tickets := q.tickets.map fun t => if t.id = id ∧ t.state = .waiting then { t with state := s } else t }

def removeTask (id : Nat) (q : Queue) : Queue := { q with tasks := q.tasks.filter (·.id ≠ id) }

def reply (id : Nat) (o : Outcome) (q : Queue) : Queue := (q.removeTask id).resolve id (.answered o.answer)

def dropTicket (id : Nat) (q : Queue) : Queue := { q with tickets := q.tickets.filter (·.id ≠ id) }

def poll (id : Nat) (q : Queue) : Option Http.Response × Queue :=
  match (q.ticket? id).bind TicketState.response? with
  | some r => (some r, q.dropTicket id)
  | none => (none, q)

/-- A task that goes away drops its reply first, so its ticket is abandoned while its slot is still held. -/
def abandon (id : Nat) (s : Stage) (q : Queue) : Queue := ((q.setStage id s).dequeue id).resolve id .abandoned

def discard (id : Nat) (q : Queue) : Queue :=
  match q.stage? id with
  | some .spawned => q.abandon id (.discarded false)
  | some .calling => q.abandon id (.discarded true)
  | _ => q

/-- A call that panics before there is anything to wait for takes its task with it, and nothing is counted. -/
def crash (id : Nat) (q : Queue) : Queue := (q.start id).abandon id .crashed

def depart (id : Nat) (q : Queue) : Queue := { q.removeTask id with inFlight := q.inFlight - 1 }

def vacate (id : Nat) (q : Queue) : Queue := claim (.release id) (q.depart id)

inductive Action where
  | draw
  | submit (id : Nat) (job : Job)
  | countRefusal
  | spawn (launcher : Launcher)
  | start (id : Nat)
  | crash (id : Nat)
  | vacate (id : Nat)
  | finish (id : Nat) (o : Outcome)
  | countEnd (id : Nat)
  | countFailure (id : Nat)
  | release (id : Nat)
  | reply (id : Nat)
  | dropTicket (id : Nat)
  | lock
  | loadAdmitted
  | loadRejected
  | loadCompleted
  | loadFailed
  deriving DecidableEq, Repr

def isFree (q : Queue) : Bool := q.reading = .none

def isLeaving (q : Queue) (id : Nat) : Bool := (q.stage? id).any Stage.isLeaving

/-- The state after a step, where the step is possible; a finished snapshot comes with the last of its numbers. -/
def act? (q : Queue) : Action → Option (Queue × Option Snapshot)
  | .draw => if q.isRunning then some (q.draw, none) else none
  | .submit id job =>
    if q.isRunning && q.drawn.contains id && q.isFree then some ((q.submitSection id job).2, none) else none
  | .countRefusal => if q.refusing > 0 then some (q.countRefusal, none) else none
  | .spawn launcher =>
    match q.claimedBy launcher with
    | id :: _ => if q.isRunning then some (q.spawn launcher id, none) else none
    | [] => none
  | .start id =>
    if q.isRunning && q.stage? id = some .spawned then some ((q.dequeue id).start id, none) else none
  | .crash id =>
    if q.isRunning && q.stage? id = some .spawned then some ((q.dequeue id).crash id, none) else none
  | .vacate id =>
    if q.isRunning && q.isLeaving id && q.isFree then some (q.vacate id, none) else none
  | .finish id o => if q.stage? id = some .calling then some (q.finish id o, none) else none
  | .countEnd id =>
    match q.stage? id with
    | some (.ended o) => some (q.countEnd id o, none)
    | _ => none
  | .countFailure id =>
    match q.stage? id with
    | some (.counted o) => some (q.countFailure id o, none)
    | _ => none
  | .release id =>
    match q.stage? id with
    | some (.recorded o) => if q.isRunning && q.isFree then some (q.release id o, none) else none
    | _ => none
  | .reply id =>
    match q.stage? id with
    | some (.released o) => if (q.claimedBy (.release id)).isEmpty then some (q.reply id o, none) else none
    | _ => none
  | .dropTicket id => some (q.dropTicket id, none)
  | .lock => if q.isFree then some ({ q with reading := .begun q.pending.length q.inFlight }, none) else none
  | .loadAdmitted =>
    match q.reading with
    | .begun p f => some ({ q with reading := .admitted p f q.totals.admitted }, none)
    | _ => none
  | .loadRejected =>
    match q.reading with
    | .admitted p f a => some ({ q with reading := .rejected p f a q.totals.rejected }, none)
    | _ => none
  | .loadCompleted =>
    match q.reading with
    | .rejected p f a r => some ({ q with reading := .completed p f a r q.totals.completed }, none)
    | _ => none
  | .loadFailed =>
    match q.reading with
    | .completed p f a r c =>
      some ({ q with reading := .none },
        some ⟨p, f, q.limits.maxConcurrency, q.limits.maxQueueSize, UInt64.ofNat a, UInt64.ofNat r, UInt64.ofNat c,
          UInt64.ofNat q.totals.failed⟩)
    | _ => none

def acts? (q : Queue) : List Action → Option (Queue × List Snapshot)
  | [] => some (q, [])
  | a :: rest => do
    let (q, taken) ← q.act? a
    let (q, more) ← acts? q rest
    some (q, taken.toList ++ more)

end Turnstile.Queue
