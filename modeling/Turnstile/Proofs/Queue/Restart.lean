import Turnstile.Proofs.Queue.Shutdown
import Turnstile.Proofs.Queue.Succession

namespace Turnstile.Queue

variable {old q r : Queue} {id : Nat} {log more : List Sign} {e : Event}

theorem launch_followedBy (old q : Queue) (launcher : Launcher) :
    (old.followedBy q).launch (launcher.shift old.last) = old.followedBy (q.launch launcher) := by
  simp only [launch, claimedBy_followedBy, List.foldl_map]
  induction q.claimedBy launcher generalizing q with
  | nil => rfl
  | cons id ids ih =>
    rw [List.foldl_cons, List.foldl_cons, spawn_followedBy]
    exact ih (q.spawn launcher id)

theorem submit_followedBy (old q : Queue) (job : Job) : (old.followedBy q).submit job =
    ((q.submit job).1.map (· + old.last), old.followedBy (q.submit job).2) := by
  have hn : (old.followedBy q).nextId = q.nextId + old.last := rfl
  simp only [submit, isRunning_followedBy, draw_followedBy, hn, submitSection_followedBy]
  split
  · rfl
  · obtain ⟨x, p⟩ := q.draw.submitSection q.nextId job
    cases x with
    | ok id => exact congrArg (Prod.mk _) (launch_followedBy old p (.submission id))
    | error e => rfl

theorem complete_followedBy (h : Spent old) (q : Queue) (id : Nat) (o : Outcome) :
    (old.followedBy q).complete (id + old.last) o = old.followedBy (q.complete id o) := by
  have hl (p : Queue) : (old.followedBy p).launch (.release (id + old.last)) = old.followedBy (p.launch (.release id)) :=
    launch_followedBy old p (.release id)
  simp only [complete, countEnd_followedBy, countFailure_followedBy, release_followedBy, hl, reply_followedBy h]

theorem resume_followedBy (h : Spent old) (auto : Option Outcome) (q : Queue) (id : Nat) :
    (old.followedBy q).resume auto (id + old.last) = old.followedBy (q.resume auto id) := by
  simp only [resume, stage?_followedBy]
  cases q.stage? id with
  | none => rfl
  | some s =>
    cases s with
    | spawned =>
      cases auto with
      | none => exact start_followedBy old q id
      | some o =>
        simp only [Option.map_some, Stage.shift, start_followedBy, finish_followedBy, complete_followedBy h]
    | ended o => exact complete_followedBy h q id o
    | _ => rfl

theorem next?_shift (k : Nat) (r : Runtime) :
    (r.shift k).next? = r.next?.map fun x => { x with id := x.id + k } := by
  have hf (lane : Lane) : (r.shift k).firstOf lane = (r.firstOf lane).map fun x => { x with id := x.id + k } := by
    simp only [Runtime.firstOf, Runtime.shift, List.find?_map]
    rfl
  have hl : (r.shift k).looks = r.looks := rfl
  simp only [Runtime.next?, hf, hl]
  split <;> cases r.firstOf .outside <;> cases r.firstOf .inside <;> rfl

theorem look_followedBy (old q : Queue) :
    (old.followedBy q).look = (q.look.1.map (· + old.last), old.followedBy q.look.2) := by
  unfold look
  cases hr : q.runtime with
  | none => simp [followedBy, hr]
  | some x =>
    have hrt : (old.followedBy q).runtime = some (x.shift old.last) := by simp [followedBy, hr]
    have hnext : ({ x.shift old.last with looks := (x.shift old.last).looks + 1 } : Runtime).next? =
        ({ x with looks := x.looks + 1 } : Runtime).next?.map fun y => { y with id := y.id + old.last } :=
      next?_shift old.last { x with looks := x.looks + 1 }
    simp only [hrt, hnext]
    cases ({ x with looks := x.looks + 1 } : Runtime).next? with
    | none => rfl
    | some y =>
      exact congrArg (Prod.mk _) (dequeue_followedBy old { q with runtime := some { x with looks := x.looks + 1 } } y.id)

theorem settleWithin_followedBy (h : Spent old) (auto : Option Outcome) (fuel : Nat) (q : Queue) :
    settleWithin auto fuel (old.followedBy q) = old.followedBy (settleWithin auto fuel q) := by
  induction fuel generalizing q with
  | zero => rfl
  | succ fuel ih =>
    simp only [settleWithin, look_followedBy]
    obtain ⟨x, p⟩ := q.look
    cases x with
    | none => rfl
    | some id =>
      simp only [Option.map_some, resume_followedBy h]
      exact ih (p.resume auto id)

theorem settle_followedBy (h : Spent old) (auto : Option Outcome) (q : Queue) :
    (old.followedBy q).settle auto = old.followedBy (q.settle auto) := by
  have hp : (old.followedBy q).pending.length = q.pending.length := List.length_map _
  have hr : (old.followedBy q).readyCount = q.readyCount := by
    cases hr : q.runtime <;> simp [readyCount, followedBy, hr, Runtime.shift]
  simp only [settle, hp, hr, settleWithin_followedBy h]

theorem endCall_followedBy (old q : Queue) (id : Nat) (o : Outcome) :
    (old.followedBy q).endCall (id + old.last) o = old.followedBy (q.endCall id o) := by
  have hs : (old.followedBy q).stage? (id + old.last) = some .calling ↔ q.stage? id = some .calling :=
    stage?_eq_followedBy old q id .calling
  simp only [endCall, hs, finish_followedBy, enqueue_followedBy]
  split <;> rfl

theorem discardAll_followedBy (h : Spent old) (fuel : Nat) (q : Queue) :
    discardAll fuel (old.followedBy q) = old.followedBy (discardAll fuel q) := by
  induction fuel generalizing q with
  | zero => rfl
  | succ fuel ih =>
    have ht : (old.followedBy q).tasks = q.tasks.map (Task.shift old.last) := rfl
    simp only [discardAll, ht]
    cases q.tasks with
    | nil => rfl
    | cons t rest =>
      have hl (p : Queue) : (old.followedBy p).launch (.release (t.id + old.last)) =
          old.followedBy (p.launch (.release t.id)) := launch_followedBy old p (.release t.id)
      have hid : (t.shift old.last).id = t.id + old.last := rfl
      simp only [List.map_cons, hid, discard_followedBy h, vacate_followedBy, hl]
      exact ih _

theorem stop_followedBy (h : Spent old) (q : Queue) : (old.followedBy q).stop = old.followedBy q.stop := by
  have hp : (old.followedBy q).pending.length = q.pending.length := List.length_map _
  have ht : (old.followedBy q).tasks.length = q.tasks.length := List.length_map _
  simp only [stop, isRunning_followedBy, hp, ht, discardAll_followedBy h]
  split <;> rfl

theorem restart_followedBy (h : Spent old) (q : Queue) : (old.followedBy q).restart = old.followedBy q.restart := by
  simp only [restart, stop_followedBy h]
  rfl

def Operation.shift (k : Nat) : Operation → Operation
  | finish id o => finish (id + k) o
  | poll id => poll (id + k)
  | dropTicket id => dropTicket (id + k)
  | x => x

theorem operate_followedBy (h : Spent old) (auto : Option Outcome) {x : Operation} (hp : x ≠ .poll 0)
    (hd : x ≠ .dropTicket 0) (q : Queue) :
    (old.followedBy q).operate auto (x.shift old.last) = old.followedBy (q.operate auto x) := by
  have hx : (old.followedBy q).perform (x.shift old.last) = old.followedBy (q.perform x) := by
    cases x with
    | submit job => simp only [Operation.shift, perform, submit_followedBy]
    | submitOutside job => rfl
    | finish id o => exact endCall_followedBy old q id o
    | poll id =>
      have hid : id ≠ 0 := fun hz => hp (congrArg Operation.poll hz)
      simp only [Operation.shift, perform, poll_followedBy h q hid]
    | dropTicket id =>
      have hid : id ≠ 0 := fun hz => hd (congrArg Operation.dropTicket hz)
      exact dropTicket_followedBy h q hid
    | stop => exact stop_followedBy h q
    | restart => exact restart_followedBy h q
  rw [operate, hx, settle_followedBy h, operate]

theorem operateAll_followedBy (h : Spent old) {xs : List (Option Outcome × Operation)}
    (hxs : ∀ x ∈ xs, x.2 ≠ .poll 0 ∧ x.2 ≠ .dropTicket 0) (q : Queue) :
    (old.followedBy q).operateAll (xs.map fun x => (x.1, x.2.shift old.last)) = old.followedBy (q.operateAll xs) := by
  induction xs generalizing q with
  | nil => rfl
  | cons x xs ih =>
    obtain ⟨hp, hd⟩ := hxs x (by simp)
    have hrest := ih (fun y hy => hxs y (by simp [hy])) (q.operate x.1 x.2)
    rw [← operate_followedBy h x.1 hp hd] at hrest
    exact hrest

theorem Acts.isRunning {a : Action} (h : Acts q a r) : r.isRunning = q.isRunning := by
  cases h with
  | submit job =>
    unfold submitSection
    split
    · rfl
    · exact isRunning_claim _ _
  | spawn => simp [Queue.isRunning, Queue.spawn, enqueue, setStage]
  | start => exact isRunning_startTask _ _ _
  | crash => rw [isRunning_abandon, isRunning_startTask]
  | countFailure =>
    rw [countFailure_eq]
    rfl
  | release | vacate => exact isRunning_claim _ _
  | _ => rfl

theorem isRunning_of_step (hr : q.isRunning = false) (he : e ≠ .restart) (h : q.step? e = some r) :
    r.isRunning = false := by
  cases e with
  | act a =>
    obtain ⟨⟨s, x⟩, ha, rfl⟩ := Option.map_eq_some_iff.mp h
    exact (acts_of_act? ha).isRunning.trans hr
  | poll id =>
    cases h
    unfold poll
    split <;> exact hr
  | submitOutside job =>
    cases h
    exact hr
  | vacateOutside id =>
    simp only [step?, Option.ite_none_right_eq_some, Option.some.injEq] at h
    obtain ⟨-, rfl⟩ := h
    exact hr
  | discard id =>
    simp only [step?, Option.ite_none_right_eq_some, Option.some.injEq] at h
    obtain ⟨-, rfl⟩ := h
    exact (isRunning_discard id q).trans hr
  | schedule | stop => simp [step?, hr] at h
  | restart => exact absurd rfl he

theorem isRunning_of_play? {es : List Event} (hr : q.isRunning = false) (he : .restart ∉ es)
    (h : q.play? es = some (more, r)) : r.isRunning = false := by
  induction es generalizing q more with
  | nil =>
    cases h
    exact hr
  | cons e es ih =>
    simp only [play?, Option.bind_eq_bind, Option.bind_eq_some_iff, Option.some.injEq, Prod.mk.injEq] at h
    obtain ⟨p, hp, ⟨rest, u⟩, hs, -, rfl⟩ := h
    rw [List.mem_cons, not_or] at he
    exact ih (isRunning_of_step hr (Ne.symm he.1) hp) he.2 hs

def Deserted (q : Queue) : Prop := q.tasks = [] ∧ q.drawn = []

theorem deserted_of_step (hq : q.isRunning = false → Deserted q) (h : q.step? e = some r) :
    r.isRunning = false → Deserted r := by
  intro hr
  cases e with
  | act a =>
    obtain ⟨⟨s, x⟩, ha, rfl⟩ := Option.map_eq_some_iff.mp h
    have hacts := acts_of_act? ha
    have hstopped := hacts.isRunning.symm.trans hr
    obtain ⟨ht, hd⟩ := hq hstopped
    cases hacts with
    | draw => simp [act?, hstopped] at ha
    | submit job hrun => simp [hrun] at hstopped
    | release hrun | vacate hrun => simp [hrun] at hstopped
    | countRefusal | dropTicket | observe => exact ⟨ht, hd⟩
    | spawn hm | finish _ hm | countEnd hm | countFailure hm => simp [ht] at hm
    | start hf | crash hf | reply hf =>
      have hm := (task?_eq_some hf).1
      simp [ht] at hm
  | poll id =>
    cases h
    unfold poll at hr ⊢
    split at hr <;> exact hq hr
  | submitOutside job =>
    cases h
    exact hq hr
  | vacateOutside id =>
    simp only [step?, Option.ite_none_right_eq_some, Option.some.injEq, Bool.and_eq_true] at h
    obtain ⟨⟨⟨hl, -⟩, -⟩, rfl⟩ := h
    obtain ⟨t, hf, -⟩ := isLeaving_iff.mp hl
    have hm := (task?_eq_some hf).1
    simp [(hq hr).1] at hm
  | discard id =>
    simp only [step?, Option.ite_none_right_eq_some, Option.some.injEq] at h
    obtain ⟨hi, rfl⟩ := h
    obtain ⟨t, hf, -⟩ := isIdle_iff.mp hi
    have hm := (task?_eq_some hf).1
    simp [(hq ((isRunning_discard id q).symm.trans hr)).1] at hm
  | schedule x =>
    simp only [step?, Option.ite_none_right_eq_some, Option.some.injEq] at h
    obtain ⟨-, rfl⟩ := h
    cases hr
  | stop =>
    simp only [step?, Option.ite_none_right_eq_some, Option.some.injEq, Bool.and_eq_true, List.isEmpty_iff] at h
    obtain ⟨⟨⟨-, ht⟩, hd⟩, rfl⟩ := h
    exact ⟨ht, hd⟩
  | restart =>
    simp only [step?, Option.ite_none_left_eq_some, Option.some.injEq] at h
    obtain ⟨-, rfl⟩ := h
    cases hr

theorem Run.deserted {allowed : Queue → Event → Prop} {limits : Config.Queue} (h : Run allowed (new limits) log q)
    (hr : q.isRunning = false) : Deserted q := by
  have hq : q.isRunning = false → Deserted q := by
    clear hr
    induction h with
    | refl => exact nofun
    | step _ _ hs ih => exact deserted_of_step ih hs
  exact hq hr

theorem Run.spent {allowed : Queue → Event → Prop} {limits : Config.Queue} (h : Run allowed (new limits) log q)
    (hl : q.live = []) : Spent q := by
  have ht : Told log q := h.moves.told (.new limits)
  have hq : Ticketed log q := h.moves.ticketed (.new limits) (.new limits)
  constructor
  intro k hk
  have hs := hq.shown k hk
  constructor
  · apply Nat.le_sub_one_of_lt
    apply Nat.lt_of_not_le
    exact fun hle => ht.ne_of_shown hs (.inr hle) rfl
  · intro hw
    rw [hw] at hs
    cases hs with
    | waiting ha =>
      have hlive := ha.live
      simp [hl] at hlive

theorem followedBy_new {limits : Config.Queue} (hn : Numbered q) (hl : q.limits = limits) (hd : Deserted q)
    (hp : q.pending = []) (hi : q.inFlight = 0) (hq : Quiet q) :
    { q with runtime := some {} } = q.followedBy (new limits) := by
  obtain ⟨l, x, nextId, drawn, pending, inFlight, totals, tasks, tickets, calls, refusing, reading, measures, peak⟩ := q
  obtain ⟨ht, hd⟩ := hd
  obtain ⟨hfree, -, href⟩ := hq
  have hnext : 1 + (nextId - 1) = nextId := Nat.add_sub_cancel' hn.nextId
  have hr : reading = .none := of_decide_eq_true hfree
  simp only at hl hd hp hi ht href
  subst hl hd hp hi ht href hr
  simp [followedBy, new, last, hnext, Totals.plus, Measures.plus, Reading.plus, Runtime.shift]

/-- Taking the runtime away comes to an end, in whichever order it is done, and then nothing is left. -/
structure EndsShutDown (q : Queue) : Prop where
  possible : ∃ es more r, (∀ e ∈ es, e.unwinds = true) ∧ q.play? es = some (more, r) ∧ ShutDown q r
  bounded : ∀ es more r, (∀ e ∈ es, e.unwinds = true) → q.play? es = some (more, r) → es.length ≤ q.effort
  complete : ∀ es more r, (∀ e ∈ es, e.unwinds = true) → q.play? es = some (more, r) →
    (∀ e, e.unwinds = true → r.step? e = none) → ShutDown q r
  atOnce : Quiet q → (∀ t ∈ q.tasks, t.stage.isIdle = true) → ∃ es more, (∀ e ∈ es, e.unwinds = true) ∧
    q.play? (es ++ [.stop]) = some (more, q.stop)

/-- As long as there is no new runtime, submissions are turned away, and nothing comes of them. -/
structure TurnsAway (q : Queue) : Prop where
  stopped : ∀ es more r, .restart ∉ es → q.play? es = some (more, r) → r.isRunning = false
  submit : ∀ es more r, .restart ∉ es → q.play? es = some (more, r) →
    ∀ job, r.submit job = (.error .noRuntime, r)

/-- With a new runtime the queue goes on as a new one would: step by step, whatever the holders of old tickets do in
between, and operation by operation. -/
structure Resumes (limits : Config.Queue) (q : Queue) : Prop where
  restart : q.step? .restart = some (q.followedBy (new limits))
  possible : ∀ es fs, es.filter (fun e => !e.isOld q.last) = fs.map (Event.shift q.last) →
    ∀ log r, (new limits).play? fs = some (log, r) → ∃ more tickets, tickets.Sublist q.tickets ∧
      (q.followedBy (new limits)).play? es = some (more, followedBy { q with tickets } r) ∧
      more.filter (fun s => !s.isOld q.last) = log.map (Sign.shift q.last)
  impossible : ∀ es fs, es.filter (fun e => !e.isOld q.last) = fs.map (Event.shift q.last) →
    (new limits).play? fs = none → (q.followedBy (new limits)).play? es = none
  operations : ∀ xs : List (Option Outcome × Operation), (∀ x ∈ xs, x.2 ≠ .poll 0 ∧ x.2 ≠ .dropTicket 0) →
    (q.followedBy (new limits)).operateAll (xs.map fun x => (x.1, x.2.shift q.last)) =
      q.followedBy ((new limits).operateAll xs)

/-- Where there are no slots, no job is ever called, and those that wait go on waiting without a runtime. -/
structure Stagnates (q : Queue) : Prop where
  calls : q.calls = []
  tasks : q.tasks = []
  inFlight : q.inFlight = 0
  pending : ∀ es more r, (∀ e ∈ es, e.unwinds = true) → q.play? es = some (more, r) →
    r.pending = q.pending ∧ r.tickets = q.tickets ∧ r.totals = q.totals

theorem Move.idle (h : Move q log r) (hs : q.slots = 0) (ht : q.tasks = []) : r.tasks = [] ∧ r.calls = q.calls := by
  cases h with
  | grant launcher hp hi => simp [hs] at hi
  | spawn hm | start hm | finish _ hm | countEnd hm | countFailure hm | free hm | reply hm | abandon hm
  | depart hm => simp [ht] at hm
  | _ => exact ⟨ht, rfl⟩

theorem Moves.idle (h : Moves q log r) (hs : q.slots = 0) (ht : q.tasks = []) :
    r.tasks = [] ∧ r.calls = q.calls := by
  induction h with
  | refl => exact ⟨ht, rfl⟩
  | move hm m ih =>
    have hslots := hs
    rw [slots, ← hm.limits] at hslots
    obtain ⟨hr, hc⟩ := m.idle hslots ih.1
    exact ⟨hr, hc.trans ih.2⟩

theorem kept_of_play? {es : List Event} (ht : q.tasks = []) (he : ∀ e ∈ es, e.unwinds = true)
    (h : q.play? es = some (more, r)) : r.pending = q.pending ∧ r.tickets = q.tickets ∧ r.totals = q.totals := by
  induction es generalizing q more with
  | nil =>
    cases h
    exact ⟨rfl, rfl, rfl⟩
  | cons e es ih =>
    simp only [play?, Option.bind_eq_bind, Option.bind_eq_some_iff, Option.some.injEq, Prod.mk.injEq] at h
    obtain ⟨p, hp, ⟨rest, u⟩, hs, -, rfl⟩ := h
    cases unwinds_of_step (he e (by simp)) hp with
    | load reading => exact ih (q := { q with reading }) ht (fun e hm => he e (by simp [hm])) hs
    | discard hm | vacate hm | spawn hm | countEnd hm | countFailure hm | release hm | reply hm => simp [ht] at hm

theorem endsShutDown {limits : Config.Queue} (h : Run attended (new limits) log q)
    (hc : 1 ≤ limits.maxConcurrency.toNat) (hr : q.isRunning = true) : EndsShutDown q := by
  have hs := h.sound (.new limits)
  constructor
  case possible =>
    obtain ⟨es, more, r, he, hp, ht, hf⟩ := exists_play?_unwinding hs.distinct hr
    refine ⟨es, more, r, he, hp, shutDown_of_play? h hc hr he hp fun e hu => ?_⟩
    cases hstep : r.step? e with
    | none => rfl
    | some u =>
      cases unwinds_of_step hu hstep with
      | load reading hl =>
        have hn : r.reading = .none := of_decide_eq_true hf
        rw [hn] at hl
        cases hl
      | discard hm | vacate hm | spawn hm | countEnd hm | countFailure hm | release hm | reply hm => simp [ht] at hm
  case bounded =>
    intro es more r he hp
    obtain ⟨-, -, hl⟩ := wanes_of_play? hs.distinct he hp
    exact Nat.le_trans (Nat.le_add_right _ _) hl
  case complete => exact fun es more r he hp => shutDown_of_play? h hc hr he hp
  case atOnce => exact fun hq hi => Unwinding.play?_stop ⟨hs, hq, hr, hi⟩

theorem resumes {limits : Config.Queue} (h : Run attended (new limits) log q)
    (hc : 1 ≤ limits.maxConcurrency.toNat) (hr : q.isRunning = false) (hq : Quiet q) : Resumes limits q := by
  have hs := h.sound (.new limits)
  have hd := h.deserted hr
  have hl : q.limits = limits := h.moves.limits
  have hi : q.inFlight = 0 := by simp [hs.balanced.inFlight, count, hd.1]
  have hp : q.pending = [] := by
    apply hs.tight.resolve_right
    rw [hi, slots, hl]
    exact Nat.not_le_of_lt hc
  have hspent := h.spent (by simp [live, hd.1, hp])
  have hnew : Numbered (new limits) := .new limits
  constructor
  case restart =>
    rw [← followedBy_new (h.moves.numbered hnew) hl hd hp hi hq]
    simp [step?, hr]
  case possible => exact fun es fs he => (play?_followedBy hspent hnew he).1
  case impossible => exact fun es fs he => (play?_followedBy hspent hnew he).2
  case operations => exact fun xs hxs => operateAll_followedBy hspent hxs (new limits)

/-- However a queue was used: its runtime can be taken away in whichever order, which always ends with no job left, no
call started and an answer for every ticket; then submissions are turned away until there is a new runtime; and with that
the queue is a new one that numbers and counts on. Where there are no slots, nothing is ever called. -/
theorem shut_down_and_resumed {limits : Config.Queue} (h : Run attended (new limits) log q) :
    (1 ≤ limits.maxConcurrency.toNat → q.isRunning = true → EndsShutDown q) ∧
      (q.isRunning = false → TurnsAway q) ∧
      (1 ≤ limits.maxConcurrency.toNat → q.isRunning = false → Quiet q → Resumes limits q) ∧
      (limits.maxConcurrency.toNat = 0 → Stagnates q) := by
  refine ⟨endsShutDown h, fun hr => ?_, resumes h, fun hc => ?_⟩
  · constructor
    case stopped => exact fun es more r he hp => isRunning_of_play? hr he hp
    case submit =>
      intro es more r he hp job
      simp [submit, isRunning_of_play? hr he hp]
  · obtain ⟨ht, hcalls⟩ := h.moves.idle hc rfl
    have hb := h.moves.balanced (distinct_new limits) (.new limits)
    constructor
    case calls => exact hcalls
    case tasks => exact ht
    case inFlight => simp [hb.inFlight, count, ht]
    case pending => exact fun es more r he hp => kept_of_play? ht he hp

def occupied : List Event :=
  [.act .draw, .act (.submit 1 plainJob), .act (.spawn (.submission 1)), .act (.start 1), .act .draw,
    .act (.submit 2 plainJob)]

def dismantled : List Event :=
  [.discard 1, .act (.vacate 1), .act (.spawn (.release 1)), .discard 2, .act (.vacate 2), .stop]

theorem shut_down_and_resumed_occupied : ∃ log q more r, (new ⟨1, 1⟩).play? occupied = some (log, q) ∧
    EndsShutDown q ∧ q.play? dismantled = some (more, r) ∧ TurnsAway r ∧ Resumes ⟨1, 1⟩ r ∧ r.last = 2 := by
  obtain ⟨log, q, more, r, h, hq, hm, hr, hquiet, hl⟩ : ∃ log q more r, (new ⟨1, 1⟩).play? occupied = some (log, q) ∧
      q.isRunning = true ∧ q.play? dismantled = some (more, r) ∧ r.isRunning = false ∧ Quiet r ∧ r.last = 2 :=
    ⟨_, _, _, _, rfl, rfl, rfl, rfl, ⟨rfl, rfl, rfl⟩, rfl⟩
  have hrun : Run attended (new ⟨1, 1⟩) log q := run_of_play? (by simp [occupied, attended]) h
  have hmore : Run attended q more r := run_of_play? (by simp [dismantled, attended]) hm
  have hc : 1 ≤ (⟨1, 1⟩ : Config.Queue).maxConcurrency.toNat := by decide
  obtain ⟨hends, -, -, -⟩ := shut_down_and_resumed hrun
  obtain ⟨-, haway, hresumes, -⟩ := shut_down_and_resumed (hrun.trans hmore)
  exact ⟨log, q, more, r, h, hends hc hq, hm, haway hr, hresumes hc hr hquiet, hl⟩

end Turnstile.Queue
