import Turnstile.Proofs.Queue.Move

namespace Turnstile.Queue

variable {f : Nat → Outcome → Outcome} {q r : Queue} {t : Task} {log : List Sign} {es : List Event}

/-- A change of the ends of calls that keeps what makes a difference. -/
structure Alike (f : Nat → Outcome → Outcome) : Prop where
  isFailure : ∀ id o, (f id o).isFailure = o.isFailure
  answer : ∀ id o, (f id o).answer = o.answer

def Stage.recast (g : Outcome → Outcome) : Stage → Stage
  | ended o => ended (g o)
  | counted o => counted (g o)
  | recorded o => recorded (g o)
  | released o => released (g o)
  | s => s

def Task.recast (f : Nat → Outcome → Outcome) (t : Task) : Task := { t with stage := t.stage.recast (f t.id) }

/-- The queue with other ends of calls. All else is the same. -/
def recast (f : Nat → Outcome → Outcome) (q : Queue) : Queue := { q with tasks := q.tasks.map (Task.recast f) }

def Action.recast (f : Nat → Outcome → Outcome) : Action → Action
  | finish id o => finish id (f id o)
  | a => a

def Event.recast (f : Nat → Outcome → Outcome) : Event → Event
  | act a => act (a.recast f)
  | e => e

def Sign.recast (f : Nat → Outcome → Outcome) : Sign → Sign
  | ended id o => ended id (f id o)
  | s => s

theorem id_recast (f : Nat → Outcome → Outcome) (t : Task) : (t.recast f).id = t.id := rfl

theorem Stage.recast_eq_iff {s u : Stage} {g : Outcome → Outcome} (h : s.isOpen = true) : u.recast g = s ↔ u = s := by
  cases u <;> simp only [Stage.recast]
  all_goals
    constructor
    · rintro rfl
      cases h
    · rintro rfl
      cases h

theorem task?_recast (f : Nat → Outcome → Outcome) (q : Queue) (id : Nat) :
    (q.recast f).task? id = (q.task? id).map (Task.recast f) := by
  simp only [task?, recast, List.find?_map]
  rfl

theorem stage?_recast (f : Nat → Outcome → Outcome) (q : Queue) (id : Nat) :
    (q.recast f).stage? id = (q.stage? id).map (Stage.recast (f id)) := by
  rw [stage?, stage?, task?_recast]
  cases ht : q.task? id with
  | none => rfl
  | some t =>
    have hid := (task?_eq_some ht).2
    simp [Task.recast, hid]

theorem stage?_recast_eq_iff {s : Stage} {id : Nat} (h : s.isOpen = true) :
    (q.recast f).stage? id = some s ↔ q.stage? id = some s := by
  rw [stage?_recast]
  cases q.stage? id with
  | none => simp
  | some u => simp [Stage.recast_eq_iff h]

theorem stage?_recast_eq_crashed (f : Nat → Outcome → Outcome) (q : Queue) (id : Nat) :
    (q.recast f).stage? id = some .crashed ↔ q.stage? id = some .crashed := by
  rw [stage?_recast]
  cases q.stage? id with
  | none => simp
  | some s => cases s <;> simp [Stage.recast]

theorem isIdle_recast (f : Nat → Outcome → Outcome) (q : Queue) (id : Nat) :
    (q.recast f).isIdle id = q.isIdle id := by
  rw [isIdle, isIdle, stage?_recast]
  cases q.stage? id with
  | none => rfl
  | some s => cases s <;> rfl

theorem isLeaving_recast (f : Nat → Outcome → Outcome) (q : Queue) (id : Nat) :
    (q.recast f).isLeaving id = q.isLeaving id := by
  rw [isLeaving, isLeaving, stage?_recast]
  cases q.stage? id with
  | none => rfl
  | some s => cases s <;> rfl

theorem filter_stage_recast {s : Stage} (h : s.isOpen = true) (f : Nat → Outcome → Outcome) (q : Queue) :
    (q.recast f).tasks.filter (·.stage = s) = (q.tasks.filter (·.stage = s)).map (Task.recast f) := by
  simp only [recast, List.filter_map]
  congr 1
  refine List.filter_congr fun t _ => ?_
  rw [Function.comp_apply, decide_eq_decide]
  exact Stage.recast_eq_iff h

theorem claimedBy_recast (f : Nat → Outcome → Outcome) (q : Queue) (launcher : Launcher) :
    (q.recast f).claimedBy launcher = q.claimedBy launcher := by
  rw [claimedBy, filter_stage_recast rfl, List.map_map]
  rfl

theorem setStage_recast (f : Nat → Outcome → Outcome) (q : Queue) (id : Nat) (s : Stage) :
    (q.recast f).setStage id (s.recast (f id)) = (q.setStage id s).recast f := by
  simp only [setStage, recast, List.map_map, Queue.mk.injEq, true_and, and_true]
  refine List.map_congr_left fun t _ => ?_
  rw [Function.comp_apply, Function.comp_apply, id_recast]
  split
  · next hid =>
    subst hid
    rfl
  · rfl

theorem removeTask_recast (f : Nat → Outcome → Outcome) (q : Queue) (id : Nat) :
    (q.recast f).removeTask id = (q.removeTask id).recast f := by
  simp only [removeTask, recast, List.filter_map]
  rfl

theorem claim_recast (f : Nat → Outcome → Outcome) (q : Queue) (launcher : Launcher) :
    (q.recast f).claim launcher = (q.claim launcher).recast f := by
  have hr : (q.recast f).isRunning = q.isRunning := rfl
  simp only [claim, hr]
  split
  · simp only [recast, List.map_append, List.map_map]
    rfl
  · rfl

theorem spawn_recast (f : Nat → Outcome → Outcome) (q : Queue) (launcher : Launcher) (id : Nat) :
    (q.recast f).spawn launcher id = (q.spawn launcher id).recast f :=
  congrArg (enqueue id launcher.lane) (setStage_recast f q id .spawned)

theorem start_recast (f : Nat → Outcome → Outcome) (q : Queue) (id : Nat) :
    (q.recast f).start id = (q.start id).recast f := by
  cases ht : q.task? id with
  | none => simp only [start, task?_recast, ht, Option.map_none]
  | some t =>
    have hset := setStage_recast f q id .calling
    have hrunning : ((q.setStage id .calling).recast f).running.length = (q.setStage id .calling).running.length := by
      rw [running, filter_stage_recast rfl, List.length_map]
      rfl
    simp only [Stage.recast] at hset
    simp only [start, task?_recast, ht, Option.map_some, hset, hrunning]
    rfl

theorem countFailure_recast (h : Alike f) (q : Queue) (id : Nat) (o : Outcome) :
    (q.recast f).countFailure id (f id o) = (q.countFailure id o).recast f := by
  have hset := setStage_recast f q id (.recorded o)
  simp only [Stage.recast] at hset
  rw [countFailure_eq, countFailure_eq, hset, h.isFailure]
  rfl

theorem free_recast (f : Nat → Outcome → Outcome) (q : Queue) (id : Nat) (o : Outcome) :
    (q.recast f).free id (f id o) = (q.free id o).recast f :=
  congrArg (fun p => { p with inFlight := q.inFlight - 1 }) (setStage_recast f q id (.released o))

theorem reply_recast (h : Alike f) (q : Queue) (id : Nat) (o : Outcome) :
    (q.recast f).reply id (f id o) = (q.reply id o).recast f := by
  rw [reply, reply, removeTask_recast, h.answer]
  rfl

theorem abandon_recast (f : Nat → Outcome → Outcome) (q : Queue) (id : Nat) (s : Stage) :
    (q.recast f).abandon id (s.recast (f id)) = (q.abandon id s).recast f :=
  congrArg (fun p => (p.dequeue id).resolve id .abandoned) (setStage_recast f q id s)

theorem discard_recast (f : Nat → Outcome → Outcome) (q : Queue) (id : Nat) :
    (q.recast f).discard id = (q.discard id).recast f := by
  simp only [discard, stage?_recast]
  cases q.stage? id with
  | none => rfl
  | some s =>
    cases s with
    | spawned => exact abandon_recast f q id (.discarded false)
    | calling => exact abandon_recast f q id (.discarded true)
    | _ => rfl

theorem vacate_recast (f : Nat → Outcome → Outcome) (q : Queue) (id : Nat) :
    (q.recast f).vacate id = (q.vacate id).recast f := by
  have hdepart : (q.recast f).depart id = (q.depart id).recast f :=
    congrArg (fun p => { p with inFlight := q.inFlight - 1 }) (removeTask_recast f q id)
  rw [vacate, vacate, hdepart, claim_recast]

theorem submitSection_recast (f : Nat → Outcome → Outcome) (q : Queue) (id : Nat) (job : Job) :
    (q.recast f).submitSection id job = ((q.submitSection id job).1, (q.submitSection id job).2.recast f) := by
  have haccept : (q.recast f).accept id job = (q.accept id job).recast f := claim_recast f (q.enter id job) _
  have hp : (q.recast f).pending = q.pending ∧ (q.recast f).room = q.room := ⟨rfl, rfl⟩
  simp only [submitSection, hp.1, hp.2, haccept]
  split <;> rfl

/-- What is possible with one end is possible with the other, and leads to the same. -/
theorem act?_recast (h : Alike f) (q : Queue) (a : Action) :
    (q.recast f).act? (a.recast f) = (q.act? a).map fun x => (x.1.recast f, x.2) := by
  have hr : (q.recast f).isRunning = q.isRunning := rfl
  have hf : (q.recast f).isFree = q.isFree := rfl
  cases a with
  | draw =>
    simp only [Action.recast, act?, hr]
    split <;> rfl
  | submit id job =>
    have hd : (q.recast f).drawn = q.drawn := rfl
    simp only [Action.recast, act?, hr, hf, hd, submitSection_recast]
    split <;> rfl
  | countRefusal =>
    have hn : (q.recast f).refusing = q.refusing := rfl
    simp only [Action.recast, act?, hn]
    split <;> rfl
  | spawn launcher =>
    simp only [Action.recast, act?, claimedBy_recast, hr, spawn_recast]
    cases q.claimedBy launcher with
    | nil => rfl
    | cons id ids =>
      dsimp only
      split <;> rfl
  | start id =>
    have hs : (q.recast f).stage? id = some .spawned ↔ q.stage? id = some .spawned := stage?_recast_eq_iff rfl
    have hd : ((q.recast f).dequeue id).start id = ((q.dequeue id).start id).recast f := start_recast f (q.dequeue id) id
    simp only [Action.recast, act?, hr, hs, hd]
    split <;> rfl
  | crash id =>
    have hs : (q.recast f).stage? id = some .spawned ↔ q.stage? id = some .spawned := stage?_recast_eq_iff rfl
    have hd : ((q.recast f).dequeue id).crash id = ((q.dequeue id).crash id).recast f := by
      have hstart : ((q.recast f).dequeue id).start id = ((q.dequeue id).start id).recast f :=
        start_recast f (q.dequeue id) id
      rw [crash, crash, hstart]
      exact abandon_recast f _ id .crashed
    simp only [Action.recast, act?, hr, hs, hd]
    split <;> rfl
  | vacate id =>
    simp only [Action.recast, act?, hr, hf, isLeaving_recast, vacate_recast]
    split <;> rfl
  | finish id o =>
    have hs : (q.recast f).stage? id = some .calling ↔ q.stage? id = some .calling := stage?_recast_eq_iff rfl
    have hd : (q.recast f).finish id (f id o) = (q.finish id o).recast f := setStage_recast f q id (.ended o)
    simp only [Action.recast, act?, hs, hd]
    split <;> rfl
  | countEnd id =>
    simp only [Action.recast, act?, stage?_recast]
    cases q.stage? id with
    | none => rfl
    | some s =>
      cases s with
      | ended o =>
        have hd : (q.recast f).countEnd id (f id o) = (q.countEnd id o).recast f :=
          congrArg (fun p => { p with totals := { q.totals with completed := q.totals.completed + 1 } })
            (setStage_recast f q id (.counted o))
        simp only [Option.map_some, Stage.recast, hd]
      | _ => rfl
  | countFailure id =>
    simp only [Action.recast, act?, stage?_recast]
    cases q.stage? id with
    | none => rfl
    | some s =>
      cases s with
      | counted o => simp only [Option.map_some, Stage.recast, countFailure_recast h]
      | _ => rfl
  | release id =>
    simp only [Action.recast, act?, stage?_recast, hr, hf]
    cases q.stage? id with
    | none => rfl
    | some s =>
      cases s with
      | recorded o =>
        have hd : (q.recast f).release id (f id o) = (q.release id o).recast f := by
          rw [release, release, free_recast, claim_recast]
        simp only [Option.map_some, Stage.recast, hd]
        split <;> rfl
      | _ => rfl
  | reply id =>
    simp only [Action.recast, act?, stage?_recast, claimedBy_recast]
    cases q.stage? id with
    | none => rfl
    | some s =>
      cases s with
      | released o =>
        simp only [Option.map_some, Stage.recast, reply_recast h]
        split <;> rfl
      | _ => rfl
  | dropTicket id => rfl
  | lock =>
    simp only [Action.recast, act?, hf]
    split <;> rfl
  | loadAdmitted | loadRejected | loadCompleted | loadFailed =>
    have hread : (q.recast f).reading = q.reading := rfl
    simp only [Action.recast, act?, hread]
    cases q.reading <;> rfl

theorem poll_recast (f : Nat → Outcome → Outcome) (q : Queue) (id : Nat) :
    (q.recast f).poll id = ((q.poll id).1, (q.poll id).2.recast f) := by
  have ht : (q.recast f).ticket? id = q.ticket? id := rfl
  simp only [poll, ht]
  cases (q.ticket? id).bind TicketState.response? <;> rfl

theorem step?_recast (h : Alike f) (q : Queue) (e : Event) :
    (q.recast f).step? (e.recast f) = (q.step? e).map (recast f) := by
  have hr : (q.recast f).isRunning = q.isRunning := rfl
  have hf : (q.recast f).isFree = q.isFree := rfl
  cases e with
  | act a =>
    simp only [Event.recast, step?, act?_recast h, Option.map_map]
    rfl
  | submitOutside job => rfl
  | poll id => simp only [Event.recast, step?, poll_recast, Option.map_some]
  | discard id =>
    simp only [Event.recast, step?, isIdle_recast, discard_recast]
    split <;> rfl
  | vacateOutside id =>
    have ho : (q.recast f).outside (vacate id) = (q.outside (vacate id)).recast f :=
      congrArg (fun p => { p with runtime := q.runtime }) (vacate_recast f { q with runtime := none } id)
    simp only [Event.recast, step?, hf, isLeaving_recast, ne_eq, stage?_recast_eq_crashed, ho]
    split <;> rfl
  | schedule r =>
    simp only [Event.recast, step?, hr]
    split <;> rfl
  | stop =>
    have ht : (q.recast f).tasks.isEmpty = q.tasks.isEmpty := List.isEmpty_map
    have hd : (q.recast f).drawn = q.drawn := rfl
    simp only [Event.recast, step?, hr, ht, hd]
    split <;> rfl
  | restart =>
    simp only [Event.recast, step?, hr]
    split <;> rfl

theorem signs_recast (h : Alike f) (q : Queue) (e : Event) :
    (q.recast f).signs (e.recast f) = (q.signs e).map (Sign.recast f) := by
  have hsubmission (id : Nat) (job : Job) (x : Except Rejection Nat) :
      (Sign.ofSubmission id job x).recast f = Sign.ofSubmission id job x := by
    cases x with
    | ok => rfl
    | error e => cases e <;> rfl
  have hcall (id : Nat) : (q.recast f).callSigns id = (q.callSigns id).map (Sign.recast f) := by
    simp only [callSigns, task?_recast]
    cases q.task? id <;> rfl
  cases e with
  | act a =>
    cases a with
    | submit id job => simp [Event.recast, Action.recast, signs, submitSection_recast, hsubmission]
    | start id => exact hcall id
    | crash id =>
      simp only [Event.recast, Action.recast, signs, hcall, List.map_append]
      rfl
    | reply id =>
      simp only [Event.recast, Action.recast, signs, stage?_recast]
      cases q.stage? id with
      | none => rfl
      | some s =>
        cases s with
        | released o => simp only [Option.map_some, Stage.recast, h.answer, List.map_cons, Sign.recast, List.map_nil]
        | _ => rfl
    | _ => rfl
  | submitOutside job => simp only [Event.recast, signs, List.map_cons, List.map_nil, hsubmission]; rfl
  | poll id =>
    simp only [Event.recast, signs, poll_recast]
    cases (q.poll id).1 <;> rfl
  | _ => rfl

/-- A run with other ends that make no difference is a run, through the same states but for these ends. -/
theorem play?_recast (h : Alike f) (q : Queue) (es : List Event) : (q.recast f).play? (es.map (Event.recast f)) =
    (q.play? es).map fun x => (x.1.map (Sign.recast f), x.2.recast f) := by
  induction es generalizing q with
  | nil => rfl
  | cons e es ih =>
    simp only [List.map_cons, play?, step?_recast h, signs_recast h]
    cases q.step? e with
    | none => rfl
    | some r =>
      simp only [Option.map_some, Option.bind_eq_bind, Option.bind_some, ih]
      cases r.play? es with
      | none => rfl
      | some x => simp

end Turnstile.Queue
