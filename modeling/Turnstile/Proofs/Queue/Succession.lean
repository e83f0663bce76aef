import Turnstile.Proofs.Queue.Tickets

namespace Turnstile.Queue

def Admitted.shift (k : Nat) (a : Admitted) : Admitted := { a with id := a.id + k }

def Launcher.shift (k : Nat) : Launcher → Launcher
  | submission id => submission (id + k)
  | release id => release (id + k)

def Stage.shift (k : Nat) : Stage → Stage
  | claimed launcher => claimed (launcher.shift k)
  | s => s

def Task.shift (k : Nat) (t : Task) : Task := ⟨t.admitted.shift k, t.stage.shift k⟩

def Ticket.shift (k : Nat) (t : Ticket) : Ticket := { t with id := t.id + k }

def Runtime.shift (k : Nat) (r : Runtime) : Runtime :=
  { r with ready := r.ready.map fun x => { x with id := x.id + k } }

def Action.shift (k : Nat) : Action → Action
  | submit id job => submit (id + k) job
  | spawn launcher => spawn (launcher.shift k)
  | start id => start (id + k)
  | crash id => crash (id + k)
  | vacate id => vacate (id + k)
  | finish id o => finish (id + k) o
  | countEnd id => countEnd (id + k)
  | countFailure id => countFailure (id + k)
  | release id => release (id + k)
  | reply id => reply (id + k)
  | dropTicket id => dropTicket (id + k)
  | a => a

def Event.shift (k : Nat) : Event → Event
  | act a => act (a.shift k)
  | poll id => poll (id + k)
  | discard id => discard (id + k)
  | vacateOutside id => vacateOutside (id + k)
  | schedule r => schedule (r.shift k)
  | e => e

def Sign.shift (k : Nat) : Sign → Sign
  | admitted a => admitted (a.shift k)
  | refused id pending limit => refused (id + k) pending limit
  | noRuntime => noRuntime
  | called a => called (a.shift k)
  | ended id o => ended (id + k) o
  | freed id => freed (id + k)
  | answered id r => answered (id + k) r
  | lost id how => lost (id + k) how
  | taken id r => taken (id + k) r
  | dropped id => dropped (id + k)

def Totals.plus (t u : Totals) : Totals :=
  ⟨t.admitted + u.admitted, t.rejected + u.rejected, t.completed + u.completed, t.failed + u.failed⟩

def Measures.plus (m n : Measures) : Measures :=
  ⟨n.gauges.or m.gauges, m.rejected + n.rejected, m.failed + n.failed, m.waits + n.waits⟩

/-- A snapshot tells the totals of both queues. -/
def Reading.plus (t : Totals) : Reading → Reading
  | none => none
  | begun p f => begun p f
  | admitted p f a => admitted p f (t.admitted + a)
  | rejected p f a r => rejected p f (t.admitted + a) (t.rejected + r)
  | completed p f a r c => completed p f (t.admitted + a) (t.rejected + r) (t.completed + c)

/-- The last number that was given out. -/
def last (q : Queue) : Nat := q.nextId - 1

/-- The state of a queue that took over from an old one, where it would have come to `q` on its own. -/
def followedBy (old q : Queue) : Queue where
  limits := q.limits
  runtime := q.runtime.map (Runtime.shift old.last)
  nextId := q.nextId + old.last
  drawn := q.drawn.map (· + old.last)
  pending := q.pending.map (Admitted.shift old.last)
  inFlight := q.inFlight
  totals := old.totals.plus q.totals
  tasks := q.tasks.map (Task.shift old.last)
  tickets := old.tickets ++ q.tickets.map (Ticket.shift old.last)
  calls := old.calls ++ q.calls.map (Admitted.shift old.last)
  refusing := q.refusing
  reading := q.reading.plus old.totals
  measures := old.measures.plus q.measures
  peak := max old.peak q.peak

variable {old q : Queue} {id : Nat} {s : Stage} {launcher : Launcher} {job : Job} {o : Outcome}

theorem Launcher.shift_inj {k : Nat} {l m : Launcher} : l.shift k = m.shift k ↔ l = m := by
  cases l <;> cases m <;> simp [Launcher.shift]

theorem Stage.shift_inj {k : Nat} {s u : Stage} : s.shift k = u.shift k ↔ s = u := by
  cases s <;> cases u <;> simp [Stage.shift, Launcher.shift_inj]

theorem isLeaving_shift (k : Nat) (s : Stage) : (s.shift k).isLeaving = s.isLeaving := by
  cases s <;> rfl

theorem isIdle_shift (k : Nat) (s : Stage) : (s.shift k).isIdle = s.isIdle := by
  cases s <;> rfl

theorem beq_add_right (i j k : Nat) : (i + k == j + k) = (i == j) := by
  rw [Bool.eq_iff_iff]
  simp

theorem find?_shift {α : Type} {f : α → Nat} {g : α → α} {k : Nat} (hg : ∀ a, f (g a) = f a + k) (l : List α)
    (id : Nat) : (l.map g).find? (f · == id + k) = (l.find? (f · == id)).map g := by
  rw [List.find?_map]
  congr 2
  funext a
  exact (congrArg (· == id + k) (hg a)).trans (beq_add_right _ _ _)

theorem isRunning_followedBy (old q : Queue) : (old.followedBy q).isRunning = q.isRunning := by
  simp [isRunning, followedBy]

theorem isFree_followedBy (old q : Queue) : (old.followedBy q).isFree = q.isFree := by
  cases hr : q.reading <;> simp [isFree, followedBy, Reading.plus, hr]

theorem task?_followedBy (old q : Queue) (id : Nat) :
    (old.followedBy q).task? (id + old.last) = (q.task? id).map (Task.shift old.last) :=
  find?_shift (fun _ => rfl) q.tasks id

theorem stage?_followedBy (old q : Queue) (id : Nat) :
    (old.followedBy q).stage? (id + old.last) = (q.stage? id).map (Stage.shift old.last) := by
  simp only [stage?, task?_followedBy, Option.map_map]
  rfl

theorem stage?_followedBy_eq_crashed (old q : Queue) (id : Nat) :
    (old.followedBy q).stage? (id + old.last) = some .crashed ↔ q.stage? id = some .crashed := by
  rw [stage?_followedBy]
  cases q.stage? id with
  | none => simp
  | some s => cases s <;> simp [Stage.shift]

theorem isIdle_followedBy (old q : Queue) (id : Nat) : (old.followedBy q).isIdle (id + old.last) = q.isIdle id := by
  simp only [isIdle, stage?_followedBy]
  cases q.stage? id <;> simp [isIdle_shift]

theorem isLeaving_followedBy (old q : Queue) (id : Nat) :
    (old.followedBy q).isLeaving (id + old.last) = q.isLeaving id := by
  simp only [isLeaving, stage?_followedBy]
  cases q.stage? id <;> simp [isLeaving_shift]

theorem claimedBy_followedBy (old q : Queue) (launcher : Launcher) :
    (old.followedBy q).claimedBy (launcher.shift old.last) = (q.claimedBy launcher).map (· + old.last) := by
  have hk : ((fun t : Task => decide (t.stage = .claimed (launcher.shift old.last))) ∘ Task.shift old.last) =
      fun t => decide (t.stage = .claimed launcher) := by
    funext t
    have hs : t.stage.shift old.last = (Stage.claimed launcher).shift old.last ↔ t.stage = .claimed launcher :=
      Stage.shift_inj
    exact decide_eq_decide.mpr hs
  simp only [claimedBy, followedBy, List.filter_map, hk, List.map_map]
  rfl

theorem setStage_followedBy (old q : Queue) (id : Nat) (s : Stage) :
    (old.followedBy q).setStage (id + old.last) (s.shift old.last) = old.followedBy (q.setStage id s) := by
  have ht : (q.tasks.map (Task.shift old.last)).map
      (fun t => if t.id = id + old.last then { t with stage := s.shift old.last } else t) =
      (q.tasks.map fun t => if t.id = id then { t with stage := s } else t).map (Task.shift old.last) := by
    simp only [List.map_map]
    apply List.map_congr_left
    intro t _
    by_cases hid : t.id = id
    · have hs : (t.shift old.last).id = id + old.last := congrArg (· + old.last) hid
      simp only [Function.comp, hid, hs, if_true]
      rfl
    · have hs : (t.shift old.last).id ≠ id + old.last := fun he => hid (Nat.add_right_cancel he)
      simp only [Function.comp, hid, hs, if_false]
  simp only [setStage, followedBy, ht]

theorem removeTask_followedBy (old q : Queue) (id : Nat) :
    (old.followedBy q).removeTask (id + old.last) = old.followedBy (q.removeTask id) := by
  have hk : ((fun t : Task => decide (t.id ≠ id + old.last)) ∘ Task.shift old.last) = fun t => decide (t.id ≠ id) := by
    funext t
    by_cases hid : t.admitted.id = id <;> simp [Task.shift, Task.id, Admitted.shift, hid]
  simp only [removeTask, followedBy, List.filter_map, hk]

theorem claim_followedBy (old q : Queue) (launcher : Launcher) :
    (old.followedBy q).claim (launcher.shift old.last) = old.followedBy (q.claim launcher) := by
  cases hr : q.isRunning with
  | false => rw [claim_of_stopped hr, claim_of_stopped ((isRunning_followedBy old q).trans hr)]
  | true =>
    have ht (as : List Admitted) :
        (as.map (Admitted.shift old.last)).map (fun a => (⟨a, .claimed (launcher.shift old.last)⟩ : Task)) =
          (as.map fun a => (⟨a, .claimed launcher⟩ : Task)).map (Task.shift old.last) := by
      simp only [List.map_map]
      rfl
    have hs : (old.followedBy q).slots = q.slots := rfl
    simp only [claim, isRunning_followedBy, hr, if_true, hs]
    simp only [followedBy, List.length_map, ← List.map_drop, ← List.map_take, ht, List.map_append]
    rfl

theorem enqueue_followedBy (old q : Queue) (id : Nat) (lane : Lane) :
    (old.followedBy q).enqueue (id + old.last) lane = old.followedBy (q.enqueue id lane) := by
  simp only [enqueue, followedBy, Option.map_map]
  congr 2
  funext r
  simp [Runtime.shift]

theorem dequeue_followedBy (old q : Queue) (id : Nat) :
    (old.followedBy q).dequeue (id + old.last) = old.followedBy (q.dequeue id) := by
  simp only [dequeue, followedBy, Option.map_map]
  congr 2
  funext r
  simp only [Function.comp, Runtime.shift, List.eraseP_map]
  congr 3
  funext x
  exact beq_add_right _ _ _

theorem spawn_followedBy (old q : Queue) (launcher : Launcher) (id : Nat) :
    (old.followedBy q).spawn (launcher.shift old.last) (id + old.last) = old.followedBy (q.spawn launcher id) := by
  have hl : (launcher.shift old.last).lane = launcher.lane := by cases launcher <;> rfl
  have hs := setStage_followedBy old q id .spawned
  simp only [spawn, hl, ← enqueue_followedBy, ← hs]
  rfl

theorem length_running_followedBy (old q : Queue) : (old.followedBy q).running.length = q.running.length := by
  have hk : ((fun t : Task => decide (t.stage = .calling)) ∘ Task.shift old.last) =
      fun t => decide (t.stage = .calling) := by
    funext t
    have hs : t.stage.shift old.last = Stage.calling.shift old.last ↔ t.stage = .calling := Stage.shift_inj
    exact decide_eq_decide.mpr hs
  simp only [running, followedBy, List.filter_map, hk, List.length_map]

theorem start_followedBy (old q : Queue) (id : Nat) :
    (old.followedBy q).start (id + old.last) = old.followedBy (q.start id) := by
  simp only [start, task?_followedBy]
  cases q.task? id with
  | none => rfl
  | some t =>
    have hs : (old.followedBy q).setStage (id + old.last) .calling = old.followedBy (q.setStage id .calling) :=
      setStage_followedBy old q id .calling
    simp only [Option.map_some, hs, length_running_followedBy]
    simp only [followedBy, List.map_append, List.append_assoc, Nat.max_assoc]
    rfl

theorem finish_followedBy (old q : Queue) (id : Nat) (o : Outcome) :
    (old.followedBy q).finish (id + old.last) o = old.followedBy (q.finish id o) :=
  setStage_followedBy old q id (.ended o)

theorem countEnd_followedBy (old q : Queue) (id : Nat) (o : Outcome) :
    (old.followedBy q).countEnd (id + old.last) o = old.followedBy (q.countEnd id o) := by
  have hs : (old.followedBy q).setStage (id + old.last) (.counted o) = old.followedBy (q.setStage id (.counted o)) :=
    setStage_followedBy old q id (.counted o)
  simp only [countEnd, hs]
  rfl

theorem countFailure_followedBy (old q : Queue) (id : Nat) (o : Outcome) :
    (old.followedBy q).countFailure (id + old.last) o = old.followedBy (q.countFailure id o) := by
  have hs : (old.followedBy q).setStage (id + old.last) (.recorded o) = old.followedBy (q.setStage id (.recorded o)) :=
    setStage_followedBy old q id (.recorded o)
  cases ho : o.isFailure <;> simp only [countFailure, hs, ho] <;> rfl

theorem free_followedBy (old q : Queue) (id : Nat) (o : Outcome) :
    (old.followedBy q).free (id + old.last) o = old.followedBy (q.free id o) := by
  have hs : (old.followedBy q).setStage (id + old.last) (.released o) = old.followedBy (q.setStage id (.released o)) :=
    setStage_followedBy old q id (.released o)
  simp only [free, hs]
  rfl

theorem release_followedBy (old q : Queue) (id : Nat) (o : Outcome) :
    (old.followedBy q).release (id + old.last) o = old.followedBy (q.release id o) := by
  rw [release, free_followedBy, release, ← claim_followedBy]
  rfl

theorem draw_followedBy (old q : Queue) : (old.followedBy q).draw = old.followedBy q.draw := by
  simp only [draw, followedBy, List.map_append, Nat.add_right_comm]
  rfl

theorem erase_followedBy (k : Nat) (l : List Nat) (id : Nat) :
    (l.map (· + k)).erase (id + k) = (l.erase id).map (· + k) := by
  rw [List.erase_eq_eraseP, List.erase_eq_eraseP, List.eraseP_map]
  congr 2
  funext x
  exact beq_add_right _ _ _

theorem enter_followedBy (old q : Queue) (id : Nat) (job : Job) :
    (old.followedBy q).enter (id + old.last) job = old.followedBy (q.enter id job) := by
  simp only [enter, followedBy, erase_followedBy, List.map_append, List.append_assoc]
  rfl

theorem refuse_followedBy (old q : Queue) (id : Nat) :
    (old.followedBy q).refuse (id + old.last) = old.followedBy (q.refuse id) := by
  simp only [refuse, followedBy, erase_followedBy]

theorem countRefusal_followedBy (old q : Queue) :
    (old.followedBy q).countRefusal = old.followedBy q.countRefusal := rfl

theorem accept_followedBy (old q : Queue) (id : Nat) (job : Job) :
    (old.followedBy q).accept (id + old.last) job = old.followedBy (q.accept id job) := by
  rw [accept, enter_followedBy, accept, ← claim_followedBy]
  rfl

theorem submitSection_followedBy (old q : Queue) (id : Nat) (job : Job) :
    (old.followedBy q).submitSection (id + old.last) job =
      ((q.submitSection id job).1.map (· + old.last), old.followedBy (q.submitSection id job).2) := by
  have hl : (old.followedBy q).pending.length = q.pending.length := List.length_map _
  have hr : (old.followedBy q).room = q.room := rfl
  simp only [submitSection, hl, hr]
  split
  · rw [refuse_followedBy]
    rfl
  · rw [accept_followedBy]
    rfl

/-- The jobs of the old queue are done with, and its tickets show what they will ever show. -/
structure Spent (old : Queue) : Prop where
  tickets : ∀ k ∈ old.tickets, k.id ≤ old.last ∧ k.state ≠ .waiting

theorem resolve_followedBy (h : Spent old) (q : Queue) (id : Nat) (u : TicketState) :
    (old.followedBy q).resolve (id + old.last) u = old.followedBy (q.resolve id u) := by
  have hold : old.tickets.map (fun k => if k.id = id + old.last ∧ k.state = .waiting then { k with state := u } else k) =
      old.tickets :=
    (List.map_congr_left fun k hk => if_neg fun hw => (h.tickets k hk).2 hw.2).trans (List.map_id _)
  have hnew : (q.tickets.map (Ticket.shift old.last)).map
      (fun k => if k.id = id + old.last ∧ k.state = .waiting then { k with state := u } else k) =
      (q.tickets.map fun k => if k.id = id ∧ k.state = .waiting then { k with state := u } else k).map
        (Ticket.shift old.last) := by
    simp only [List.map_map]
    apply List.map_congr_left
    intro k _
    by_cases hk : k.id = id ∧ k.state = .waiting
    · simp [Ticket.shift, hk]
    · simp [Ticket.shift, hk]
  simp only [resolve, followedBy, List.map_append, hold, hnew]

theorem dropTicket_followedBy (h : Spent old) (q : Queue) (hid : id ≠ 0) :
    (old.followedBy q).dropTicket (id + old.last) = old.followedBy (q.dropTicket id) := by
  have hold : old.tickets.filter (fun k => k.id ≠ id + old.last) = old.tickets := by
    apply List.filter_eq_self.mpr
    intro k hk
    have hl := (h.tickets k hk).1
    exact decide_eq_true (by omega)
  have hk : ((fun k : Ticket => decide (k.id ≠ id + old.last)) ∘ Ticket.shift old.last) =
      fun k => decide (k.id ≠ id) := by
    funext k
    by_cases he : k.id = id <;> simp [Ticket.shift, he]
  simp only [dropTicket, followedBy, List.filter_append, hold, List.filter_map, hk]

theorem ticket?_followedBy (h : Spent old) (q : Queue) (hid : id ≠ 0) :
    (old.followedBy q).ticket? (id + old.last) = q.ticket? id := by
  have hold : old.tickets.find? (·.id == id + old.last) = none := by
    rw [List.find?_eq_none]
    intro k hk he
    have hl := (h.tickets k hk).1
    have hke : k.id = id + old.last := eq_of_beq he
    omega
  have hnew : (q.tickets.map (Ticket.shift old.last)).find? (·.id == id + old.last) =
      (q.tickets.find? (·.id == id)).map (Ticket.shift old.last) := find?_shift (fun _ => rfl) q.tickets id
  simp only [ticket?, followedBy, List.find?_append, hold, Option.none_or, hnew, Option.map_map]
  rfl

theorem poll_followedBy (h : Spent old) (q : Queue) (hid : id ≠ 0) :
    (old.followedBy q).poll (id + old.last) = ((q.poll id).1, old.followedBy (q.poll id).2) := by
  simp only [poll, ticket?_followedBy h q hid]
  cases (q.ticket? id).bind TicketState.response? with
  | none => rfl
  | some x => rw [dropTicket_followedBy h q hid]

theorem reply_followedBy (h : Spent old) (q : Queue) (id : Nat) (o : Outcome) :
    (old.followedBy q).reply (id + old.last) o = old.followedBy (q.reply id o) := by
  rw [reply, removeTask_followedBy, resolve_followedBy h, reply]

theorem abandon_followedBy (h : Spent old) (q : Queue) (id : Nat) (s : Stage) :
    (old.followedBy q).abandon (id + old.last) (s.shift old.last) = old.followedBy (q.abandon id s) := by
  rw [abandon, setStage_followedBy, dequeue_followedBy, resolve_followedBy h, abandon]

theorem discard_followedBy (h : Spent old) (q : Queue) (id : Nat) :
    (old.followedBy q).discard (id + old.last) = old.followedBy (q.discard id) := by
  simp only [discard, stage?_followedBy]
  cases q.stage? id with
  | none => rfl
  | some s =>
    cases s with
    | spawned => exact abandon_followedBy h q id (.discarded false)
    | calling => exact abandon_followedBy h q id (.discarded true)
    | _ => rfl

theorem crash_followedBy (h : Spent old) (q : Queue) (id : Nat) :
    (old.followedBy q).crash (id + old.last) = old.followedBy (q.crash id) := by
  rw [crash, start_followedBy, crash]
  exact abandon_followedBy h (q.start id) id .crashed

theorem depart_followedBy (old q : Queue) (id : Nat) :
    (old.followedBy q).depart (id + old.last) = old.followedBy (q.depart id) := by
  rw [depart, removeTask_followedBy]
  rfl

theorem vacate_followedBy (old q : Queue) (id : Nat) :
    (old.followedBy q).vacate (id + old.last) = old.followedBy (q.vacate id) := by
  rw [vacate, depart_followedBy, vacate, ← claim_followedBy]
  rfl

/-- What the holder of an old ticket does with it. -/
def Event.isOld (k : Nat) : Event → Bool
  | poll id | act (.dropTicket id) => id ≤ k
  | _ => false

def Sign.isOld (k : Nat) : Sign → Bool
  | taken id _ | dropped id => id ≤ k
  | _ => false

theorem stage?_eq_followedBy (old q : Queue) (id : Nat) (s : Stage) :
    (old.followedBy q).stage? (id + old.last) = some (s.shift old.last) ↔ q.stage? id = some s := by
  rw [stage?_followedBy]
  cases q.stage? id <;> simp [Stage.shift_inj]

theorem contains_followedBy (old q : Queue) (id : Nat) :
    (old.followedBy q).drawn.contains (id + old.last) = q.drawn.contains id := by
  simp [followedBy]

theorem act?_followedBy (h : Spent old) (q : Queue) {a : Action} (ha : a ≠ .dropTicket 0) :
    ((old.followedBy q).act? (a.shift old.last)).map Prod.fst = ((q.act? a).map Prod.fst).map old.followedBy := by
  cases a with
  | draw =>
    simp only [Action.shift, act?, isRunning_followedBy, draw_followedBy]
    split <;> rfl
  | submit id job =>
    simp only [Action.shift, act?, isRunning_followedBy, contains_followedBy, isFree_followedBy,
      submitSection_followedBy]
    split <;> rfl
  | countRefusal =>
    have hn : (old.followedBy q).refusing = q.refusing := rfl
    simp only [Action.shift, act?, hn, countRefusal_followedBy]
    split <;> rfl
  | spawn launcher =>
    simp only [Action.shift, act?, claimedBy_followedBy, isRunning_followedBy]
    cases q.claimedBy launcher with
    | nil => rfl
    | cons id ids =>
      simp only [List.map_cons, spawn_followedBy]
      split <;> rfl
  | start id =>
    have hs := stage?_eq_followedBy old q id .spawned
    simp only [Action.shift, act?, isRunning_followedBy, dequeue_followedBy, start_followedBy]
    simp only [Stage.shift] at hs
    simp only [hs]
    split <;> rfl
  | crash id =>
    have hs := stage?_eq_followedBy old q id .spawned
    simp only [Action.shift, act?, isRunning_followedBy, dequeue_followedBy, crash_followedBy h]
    simp only [Stage.shift] at hs
    simp only [hs]
    split <;> rfl
  | vacate id =>
    simp only [Action.shift, act?, isRunning_followedBy, isLeaving_followedBy, isFree_followedBy, vacate_followedBy]
    split <;> rfl
  | finish id o =>
    have hs := stage?_eq_followedBy old q id .calling
    simp only [Action.shift, act?, finish_followedBy]
    simp only [Stage.shift] at hs
    simp only [hs]
    split <;> rfl
  | countEnd id =>
    simp only [Action.shift, act?, stage?_followedBy]
    cases q.stage? id with
    | none => rfl
    | some s => cases s <;> simp [Stage.shift, countEnd_followedBy]
  | countFailure id =>
    simp only [Action.shift, act?, stage?_followedBy]
    cases q.stage? id with
    | none => rfl
    | some s => cases s <;> simp [Stage.shift, countFailure_followedBy]
  | release id =>
    simp only [Action.shift, act?, stage?_followedBy, isRunning_followedBy, isFree_followedBy]
    cases q.stage? id with
    | none => rfl
    | some s =>
      cases s with
      | recorded o =>
        simp only [Option.map_some, Stage.shift, release_followedBy]
        split <;> rfl
      | _ => rfl
  | reply id =>
    have hc : (old.followedBy q).claimedBy (.release (id + old.last)) = (q.claimedBy (.release id)).map (· + old.last) :=
      claimedBy_followedBy old q (.release id)
    simp only [Action.shift, act?, stage?_followedBy, hc, List.isEmpty_map]
    cases q.stage? id with
    | none => rfl
    | some s =>
      cases s with
      | released o =>
        simp only [Option.map_some, Stage.shift, reply_followedBy h]
        split <;> rfl
      | _ => rfl
  | dropTicket id =>
    have hid : id ≠ 0 := by
      rintro rfl
      exact ha rfl
    simp only [Action.shift, act?, dropTicket_followedBy h q hid]
    rfl
  | lock =>
    have hl : (old.followedBy q).pending.length = q.pending.length := List.length_map _
    simp only [Action.shift, act?, isFree_followedBy, hl]
    split <;> rfl
  | loadAdmitted | loadRejected | loadCompleted | loadFailed =>
    have hr : (old.followedBy q).reading = q.reading.plus old.totals := rfl
    simp only [Action.shift, act?, hr]
    cases q.reading <;> rfl

theorem outside_followedBy {f g : Queue → Queue} (hf : ∀ q, f (old.followedBy q) = old.followedBy (g q)) (q : Queue) :
    (old.followedBy q).outside f = old.followedBy (q.outside g) := by
  have hn : { old.followedBy q with runtime := none } = old.followedBy { q with runtime := none } := rfl
  simp only [outside, hn, hf]
  rfl

theorem isOld_shift {k : Nat} {e : Event} (he : (e.shift k).isOld k = false) :
    e ≠ .poll 0 ∧ e ≠ .act (.dropTicket 0) := by
  constructor
  all_goals
    rintro rfl
    simp [Event.shift, Action.shift, Event.isOld] at he

theorem step?_followedBy (h : Spent old) (q : Queue) {e : Event} (he : (e.shift old.last).isOld old.last = false) :
    (old.followedBy q).step? (e.shift old.last) = (q.step? e).map old.followedBy := by
  obtain ⟨hpoll, hdrop⟩ := isOld_shift he
  cases e with
  | act a => exact act?_followedBy h q fun ha => hdrop (congrArg Event.act ha)
  | submitOutside job =>
    simp only [Event.shift, step?, outside_submit]
    rfl
  | poll id =>
    have hid : id ≠ 0 := fun hz => hpoll (congrArg Event.poll hz)
    simp only [Event.shift, step?, poll_followedBy h q hid, Option.map_some]
  | discard id =>
    simp only [Event.shift, step?, isIdle_followedBy, discard_followedBy h]
    split <;> rfl
  | vacateOutside id =>
    simp only [Event.shift, step?, isLeaving_followedBy, isFree_followedBy, ne_eq, stage?_followedBy_eq_crashed,
      outside_followedBy fun q => vacate_followedBy old q id]
    split <;> rfl
  | schedule r =>
    simp only [Event.shift, step?, isRunning_followedBy]
    split <;> rfl
  | stop =>
    have ht : (old.followedBy q).tasks.isEmpty = q.tasks.isEmpty := List.isEmpty_map
    have hd : (old.followedBy q).drawn.isEmpty = q.drawn.isEmpty := List.isEmpty_map
    simp only [Event.shift, step?, isRunning_followedBy, ht, hd]
    split <;> rfl
  | restart =>
    simp only [Event.shift, step?, isRunning_followedBy]
    split <;> rfl

theorem ofSubmission_shift (k id : Nat) (job : Job) (x : Except Rejection Nat) :
    Sign.ofSubmission (id + k) job (x.map (· + k)) = (Sign.ofSubmission id job x).shift k := by
  cases x with
  | ok => rfl
  | error e => cases e <;> rfl

theorem callSigns_followedBy (old q : Queue) (id : Nat) :
    (old.followedBy q).callSigns (id + old.last) = (q.callSigns id).map (Sign.shift old.last) := by
  simp only [callSigns, task?_followedBy]
  cases q.task? id <;> rfl

theorem signs_followedBy (h : Spent old) (q : Queue) {e : Event} (he : (e.shift old.last).isOld old.last = false) :
    (old.followedBy q).signs (e.shift old.last) = (q.signs e).map (Sign.shift old.last) := by
  obtain ⟨hpoll, -⟩ := isOld_shift he
  cases e with
  | act a =>
    cases a with
    | submit id job =>
      simp only [Event.shift, Action.shift, signs, submitSection_followedBy, ofSubmission_shift]
      rfl
    | start id => exact callSigns_followedBy old q id
    | crash id =>
      simp only [Event.shift, Action.shift, signs, callSigns_followedBy, List.map_append]
      rfl
    | reply id =>
      simp only [Event.shift, Action.shift, signs, stage?_followedBy]
      cases q.stage? id with
      | none => rfl
      | some s => cases s <;> rfl
    | _ => rfl
  | poll id =>
    have hid : id ≠ 0 := fun hz => hpoll (congrArg Event.poll hz)
    simp only [Event.shift, signs, poll_followedBy h q hid]
    cases (q.poll id).1 <;> rfl
  | _ => rfl

theorem isOld_of_mem_signs {k : Nat} {e : Event} {s : Sign} (hs : s ∈ q.signs e) : s.isOld k = e.isOld k := by
  cases e with
  | act a =>
    cases a with
    | submit id job =>
      obtain rfl := List.mem_singleton.mp hs
      cases (q.submitSection id job).1 with
      | ok => rfl
      | error e => cases e <;> rfl
    | start id =>
      obtain ⟨t, -, rfl⟩ := List.mem_map.mp hs
      rfl
    | crash id =>
      obtain hs | hs := List.mem_append.mp hs
      · obtain ⟨t, -, rfl⟩ := List.mem_map.mp hs
        rfl
      · obtain rfl := List.mem_singleton.mp hs
        rfl
    | finish | release | vacate | dropTicket =>
      obtain rfl := List.mem_singleton.mp hs
      rfl
    | reply id =>
      simp only [signs] at hs
      split at hs
      · obtain rfl := List.mem_singleton.mp hs
        rfl
      · cases hs
    | _ => cases hs
  | submitOutside | discard | vacateOutside =>
    obtain rfl := List.mem_singleton.mp hs
    rfl
  | poll id =>
    obtain ⟨x, -, rfl⟩ := List.mem_map.mp hs
    rfl
  | _ => cases hs

/-- The numbers that a queue gives out begin with one. -/
structure Numbered (q : Queue) : Prop where
  nextId : 1 ≤ q.nextId
  drawn : 0 ∉ q.drawn
  tickets : 0 ∉ q.tickets.map Ticket.id

theorem Numbered.new (limits : Config.Queue) : Numbered (Queue.new limits) := by
  constructor <;> simp [Queue.new]

theorem Move.numbered {log : List Sign} {r : Queue} (h : Move q log r) (hn : Numbered q) : Numbered r := by
  cases h with
  | draw =>
    refine ⟨Nat.le_succ_of_le hn.nextId, ?_, hn.tickets⟩
    have hne : q.nextId ≠ 0 := Nat.ne_of_gt hn.nextId
    simpa [Queue.draw, hn.drawn] using hne.symm
  | @enter id job hid =>
    have hne : id ≠ 0 := by
      rintro rfl
      exact hn.drawn hid
    refine ⟨hn.nextId, fun hm => hn.drawn (List.mem_of_mem_erase hm), ?_⟩
    simpa [Queue.enter] using ⟨by simpa using hn.tickets, hne.symm⟩
  | refuse => exact ⟨hn.nextId, fun hm => hn.drawn (List.mem_of_mem_erase hm), hn.tickets⟩
  | countFailure =>
    rw [countFailure_eq]
    exact ⟨hn.nextId, hn.drawn, hn.tickets⟩
  | @reply t o =>
    have hids : (q.reply t.id o).tickets.map Ticket.id = q.tickets.map Ticket.id :=
      Ticketed.map_id_resolve t.id (.answered o.answer) q
    exact ⟨hn.nextId, hn.drawn, hids ▸ hn.tickets⟩
  | @abandon t how s =>
    have hids : (q.abandon t.id s).tickets.map Ticket.id = q.tickets.map Ticket.id :=
      Ticketed.map_id_resolve t.id .abandoned q
    exact ⟨hn.nextId, hn.drawn, hids ▸ hn.tickets⟩
  | dropTicket | take => exact ⟨hn.nextId, hn.drawn, fun hm => hn.tickets ((List.filter_sublist.map _).subset hm)⟩
  | _ => exact ⟨hn.nextId, hn.drawn, hn.tickets⟩

theorem Moves.numbered {log : List Sign} {r : Queue} (h : Moves q log r) (hn : Numbered q) : Numbered r := by
  induction h with
  | refl => exact hn
  | move _ m ih => exact m.numbered ih

theorem dropTicket_old (hn : Numbered q) (hid : id ≤ old.last) :
    (old.followedBy q).dropTicket id = followedBy { old with tickets := old.tickets.filter (·.id ≠ id) } q := by
  have hnew : (q.tickets.map (Ticket.shift old.last)).filter (fun k => k.id ≠ id) =
      q.tickets.map (Ticket.shift old.last) := by
    apply List.filter_eq_self.mpr
    intro k hk
    obtain ⟨j, hj, rfl⟩ := List.mem_map.mp hk
    have hne : j.id ≠ 0 := fun hz => hn.tickets (hz ▸ List.mem_map_of_mem hj)
    have hlt : id < j.id + old.last := by omega
    exact decide_eq_true (Nat.ne_of_gt hlt)
  simp only [dropTicket, followedBy, List.filter_append, hnew]
  rfl

theorem step?_old (hn : Numbered q) {e : Event} (he : e.isOld old.last = true) :
    ∃ ts, ts.Sublist old.tickets ∧ (old.followedBy q).step? e = some (followedBy { old with tickets := ts } q) := by
  have hdrop {id : Nat} (hid : id ≤ old.last) : ∃ ts, ts.Sublist old.tickets ∧
      (old.followedBy q).dropTicket id = followedBy { old with tickets := ts } q :=
    ⟨_, List.filter_sublist, dropTicket_old hn hid⟩
  cases e with
  | act a =>
    cases a with
    | dropTicket id =>
      obtain ⟨ts, hts, hd⟩ := hdrop (of_decide_eq_true he)
      exact ⟨ts, hts, by simp only [step?, act?, hd]; rfl⟩
    | _ => cases he
  | poll id =>
    cases hx : ((old.followedBy q).ticket? id).bind TicketState.response? with
    | none => exact ⟨old.tickets, List.Sublist.refl _, by simp only [step?, poll, hx]⟩
    | some x =>
      obtain ⟨ts, hts, hd⟩ := hdrop (of_decide_eq_true he)
      exact ⟨ts, hts, by simp only [step?, poll, hx, hd]⟩
  | _ => cases he

theorem play?_followedBy {es fs : List Event} (h : Spent old) (hn : Numbered q)
    (hes : es.filter (fun e => !e.isOld old.last) = fs.map (Event.shift old.last)) :
    (∀ log r, q.play? fs = some (log, r) → ∃ more ts, ts.Sublist old.tickets ∧
        (old.followedBy q).play? es = some (more, followedBy { old with tickets := ts } r) ∧
        more.filter (fun s => !s.isOld old.last) = log.map (Sign.shift old.last)) ∧
      (q.play? fs = none → (old.followedBy q).play? es = none) := by
  induction es generalizing old q fs with
  | nil =>
    obtain rfl := List.map_eq_nil_iff.mp hes.symm
    refine ⟨fun log r hp => ?_, nofun⟩
    cases hp
    exact ⟨[], old.tickets, List.Sublist.refl _, rfl, rfl⟩
  | cons e es ih =>
    have hsigns {k : Nat} (p : Queue) :
        (p.signs e).filter (fun s => !s.isOld k) = if e.isOld k then [] else p.signs e := by
      have hm : (p.signs e).filter (fun s => !s.isOld k) = (p.signs e).filter fun _ => !e.isOld k :=
        List.filter_congr fun s hs => by rw [isOld_of_mem_signs hs]
      rw [hm]
      cases e.isOld k <;> simp
    cases he : e.isOld old.last with
    | true =>
      obtain ⟨ts, hts, hstep⟩ := step?_old hn he
      have hspent : Spent { old with tickets := ts } := ⟨fun k hk => h.tickets k (hts.subset hk)⟩
      rw [List.filter_cons_of_neg (by simp [he])] at hes
      obtain ⟨hsome, hnone⟩ := ih hspent hn hes
      constructor
      · intro log r hp
        obtain ⟨more, us, hus, hplay, hmore⟩ := hsome log r hp
        refine ⟨(old.followedBy q).signs e ++ more, us, hus.trans hts, ?_, ?_⟩
        · simp only [play?, hstep, hplay, Option.bind_eq_bind, Option.bind_some]
        · rw [List.filter_append, hsigns, he, if_pos rfl]
          exact hmore
      · intro hp
        simp only [play?, hstep, hnone hp, Option.bind_eq_bind, Option.bind_some, Option.bind_none]
    | false =>
      rw [List.filter_cons_of_pos (by simp [he])] at hes
      obtain ⟨f, fs, rfl, rfl, htail⟩ := List.map_eq_cons_iff.mp hes.symm
      have hstep := step?_followedBy h q he
      have hseen := signs_followedBy h q he
      cases hf : q.step? f with
      | none =>
        rw [hf, Option.map_none] at hstep
        refine ⟨fun log r hp => ?_, fun _ => ?_⟩
        · simp [play?, hf] at hp
        · simp [play?, hstep]
      | some p =>
        rw [hf, Option.map_some] at hstep
        have hp : Numbered p := (moves_of_step hf).numbered hn
        obtain ⟨hsome, hnone⟩ := ih h hp htail.symm
        constructor
        · intro log r hplay
          simp only [play?, hf, Option.bind_eq_bind, Option.bind_some, Option.bind_eq_some_iff, Option.some.injEq,
            Prod.mk.injEq] at hplay
          obtain ⟨⟨rest, u⟩, hrest, rfl, rfl⟩ := hplay
          obtain ⟨more, ts, hts, hmore, hlog⟩ := hsome rest u hrest
          refine ⟨(old.followedBy q).signs (f.shift old.last) ++ more, ts, hts, ?_, ?_⟩
          · simp only [play?, hstep, hmore, Option.bind_eq_bind, Option.bind_some]
          · rw [List.filter_append, hsigns, he, hlog, List.map_append, ← hseen]
            rfl
        · intro hplay
          have hrest : p.play? fs = none := by
            cases hr : p.play? fs with
            | none => rfl
            | some x => simp [play?, hf, hr] at hplay
          simp [play?, hstep, hnone hrest]

end Turnstile.Queue
