import Turnstile.Queue.Transition

namespace Turnstile.Queue

def launch (launcher : Launcher) (q : Queue) : Queue :=
  (q.claimedBy launcher).foldl (fun q id => q.spawn launcher id) q

def submit (job : Job) (q : Queue) : Except Rejection Nat × Queue :=
  if !q.isRunning then (.error .noRuntime, q)
  else
    match q.draw.submitSection q.nextId job with
    | (.ok id, q) => (.ok id, q.launch (.submission id))
    | (.error e, q) => (.error e, q.countRefusal)

def complete (id : Nat) (o : Outcome) (q : Queue) : Queue :=
  ((((q.countEnd id o).countFailure id o).release id o).launch (.release id)).reply id o

def resume (auto : Option Outcome) (id : Nat) (q : Queue) : Queue :=
  match q.stage? id with
  | some .spawned =>
    match auto with
    | none => q.start id
    | some o => ((q.start id).finish id o).complete id o
  | some (.ended o) => q.complete id o
  | _ => q

def outsideInterval : Nat := 31

def Runtime.firstOf (r : Runtime) (lane : Lane) : Option Ready := r.ready.find? (·.lane = lane)

/-- The next task: the longest ready of those put there by other tasks, else the longest ready of the others; now and
then the other way round. -/
def Runtime.next? (r : Runtime) : Option Ready :=
  if r.looks % outsideInterval = 0 then (r.firstOf .outside).or (r.firstOf .inside)
  else (r.firstOf .inside).or (r.firstOf .outside)

def look (q : Queue) : Option Nat × Queue :=
  match q.runtime with
  | none => (none, q)
  | some r =>
    let r := { r with looks := r.looks + 1 }
    let q := { q with runtime := some r }
    match r.next? with
    | none => (none, q)
    | some x => (some x.id, q.dequeue x.id)

def settleWithin (auto : Option Outcome) : Nat → Queue → Queue
  | 0, q => q
  | fuel + 1, q =>
    match q.look with
    | (none, q) => q
    | (some id, q) => settleWithin auto fuel (q.resume auto id)

def readyCount (q : Queue) : Nat :=
  match q.runtime with
  | some r => r.ready.length
  | none => 0

/-- Runs tasks until none can go on. A turn takes one task off the run queue, and each job it moves there no longer
waits, so twice the waiting jobs and the ready tasks bound the number of turns. -/
def settle (auto : Option Outcome) (q : Queue) : Queue :=
  settleWithin auto (2 * q.pending.length + q.readyCount + 1) q

def endCall (id : Nat) (o : Outcome) (q : Queue) : Queue :=
  if q.stage? id = some .calling then (q.finish id o).enqueue id .outside else q

def discardAll : Nat → Queue → Queue
  | 0, q => q
  | fuel + 1, q =>
    match q.tasks with
    | [] => q
    | t :: _ => discardAll fuel (((q.discard t.id).vacate t.id).launch (.release t.id))

def stop (q : Queue) : Queue :=
  if q.isRunning then { discardAll (2 * q.pending.length + q.tasks.length) q with runtime := none } else q

def restart (q : Queue) : Queue := { q.stop with runtime := some {} }

end Turnstile.Queue
