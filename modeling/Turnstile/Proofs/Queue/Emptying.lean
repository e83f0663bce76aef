import Turnstile.Config.Validation
import Turnstile.Proofs.Queue.Interchange
import Turnstile.Proofs.Queue.Restart

namespace Turnstile.Queue

variable {q r s : Queue} {t : Task} {log more : List Sign} {id : Nat} {o : Outcome} {limits : Config.Queue}
  {admitted : List Admitted} {outcome : Nat → Outcome}

def backlog (q : Queue) : Nat := q.pending.length + q.inFlight

theorem backlog_eq_zero : q.backlog = 0 ↔ q.pending = [] ∧ q.inFlight = 0 := by
  rw [backlog, Nat.add_eq_zero_iff, List.length_eq_zero_iff]

theorem submit_of_free (job : Job) (hd : Distinct q) (hr : q.isRunning = true)
    (hc : q.claimedBy (.submission q.nextId) = []) (hp : q.pending = []) (hs : q.inFlight < q.slots)
    (hroom : 0 < q.room) :
    q.submit job = (.ok q.nextId, (q.draw.enter q.nextId job).dispatch (.submission q.nextId) ⟨q.nextId, job⟩ []
      { q.measures with gauges := some (0, q.inFlight + 1) }) := by
  have hlt : q.pending.length < q.room := by rwa [hp]
  have hpend : (q.draw.enter q.nextId job).pending = [⟨q.nextId, job⟩] := by simp [draw, enter, hp]
  have hone : min ((q.draw.enter q.nextId job).slots - (q.draw.enter q.nextId job).inFlight)
      (q.draw.enter q.nextId job).pending.length = 1 := by
    rw [hpend, List.length_singleton]
    change min (q.slots - q.inFlight) 1 = 1
    omega
  have hdistinct : Distinct (q.draw.enter q.nextId job) := hd.draw.enter (by simp [draw]) job
  rw [submit_of_room job hr hlt, accept, launch_claim_of_cons hdistinct hr hc hpend hone]
  rfl

def standing (q : Queue) : List (Job × Stage) := q.tasks.map fun t => (t.admitted.job, t.stage)

def submitAll (jobs : List Job) (q : Queue) : Queue := jobs.foldl (fun q job => (q.submit job).2) q

theorem submitAll_of_free {jobs : List Job} (hd : Distinct q) (hr : q.isRunning = true)
    (hc : ∀ t ∈ q.tasks, t.stage = .spawned) (hp : q.pending = []) (hs : q.inFlight + jobs.length ≤ q.slots)
    (hroom : 0 < q.room) : (submitAll jobs q).pending = [] ∧
      (submitAll jobs q).standing = q.standing ++ jobs.map fun job => (job, .spawned) := by
  induction jobs generalizing q with
  | nil => exact ⟨hp, (List.append_nil _).symm⟩
  | cons job jobs ih =>
    rw [List.length_cons] at hs
    have hclaimed : q.claimedBy (.submission q.nextId) = [] := by
      simp only [claimedBy, List.map_eq_nil_iff, List.filter_eq_nil_iff, decide_eq_true_iff]
      intro t ht
      simp [hc t ht]
    have hsubmit := congrArg Prod.snd (submit_of_free job hd hr hclaimed hp (by omega) hroom)
    have hnext := (moves_submit job hd).distinct hd
    have htasks : (q.submit job).2.tasks = q.tasks ++ [⟨⟨q.nextId, job⟩, .spawned⟩] := by rw [hsubmit]; rfl
    have hone : (q.submit job).2.inFlight = q.inFlight + 1 := by rw [hsubmit]; rfl
    have hslots : (q.submit job).2.slots = q.slots := by rw [hsubmit]; rfl
    have hrun : (q.submit job).2.isRunning = true := by
      rw [hsubmit]
      simpa [isRunning, dispatch, enter, draw] using hr
    obtain ⟨hpend, hall⟩ := ih hnext hrun (by rw [htasks]; simpa [or_imp, forall_and] using hc) (by rw [hsubmit]; rfl)
      (by omega) (by rw [hsubmit]; exact hroom)
    refine ⟨hpend, hall.trans ?_⟩
    simp [standing, htasks]

theorem Paused.submitting (h : Paused [] q) (job : Job) (hr : q.isRunning = true) (hp : q.pending = [])
    (hs : q.inFlight < q.slots) (hroom : 0 < q.room) :
    (q.operate none (.submit job)).pending = [] ∧ (q.operate none (.submit job)).inFlight = q.inFlight + 1 ∧
      (q.operate none (.submit job)).limits = q.limits ∧ (q.operate none (.submit job)).isRunning = true ∧
      (q.operate none (.submit job)).tasks = q.tasks ++ [⟨⟨q.nextId, job⟩, .calling⟩] := by
  obtain ⟨⟨looks, ready⟩, hrt⟩ := Option.isSome_iff_exists.mp hr
  obtain rfl : ready = [] := h.ready _ hrt
  have hd := h.sound.distinct
  have hsubmit := congrArg Prod.snd (submit_of_free job hd hr (h.claimedBy _) hp hs hroom)
  generalize hq : (q.submit job).2 = p at hsubmit
  have hready : p.runtime = some ⟨looks, [⟨q.nextId, .outside⟩]⟩ := by
    rw [hsubmit]
    simp [dispatch, draw, enter, hrt, Launcher.lane]
  have hstands : Stands p ⟨⟨q.nextId, job⟩, .spawned⟩ q.tasks [] := by
    refine ⟨by rw [hsubmit]; rfl, fun u hu => ?_⟩
    rw [List.append_nil] at hu
    have hdistinct : Distinct (q.draw.enter q.nextId job) := hd.draw.enter (by simp [draw]) job
    exact (hdistinct.pending_ne (a := ⟨q.nextId, job⟩) hu (by simp [enter])).symm
  have hsettle : q.operate none (.submit job) =
      { p.startTask ⟨⟨q.nextId, job⟩, .spawned⟩ with runtime := some ⟨looks + 2, []⟩ } := by
    have hfuel : 2 * p.pending.length + p.readyCount + 1 = 0 + 2 := by
      have hpend : p.pending = [] := by rw [hsubmit]; rfl
      simp [readyCount, hready, hpend]
    rw [Queue.operate, Queue.perform, hq, Queue.settle, hfuel, settleWithin_of_ready hready hstands]
  have htasks := hstands.setStage .calling
  rw [hsettle]
  refine ⟨?_, ?_, ?_, rfl, htasks⟩
  · change p.pending = []
    rw [hsubmit]
    rfl
  · change p.inFlight = _
    rw [hsubmit]
    rfl
  · change p.limits = _
    rw [hsubmit]
    rfl

theorem Paused.submitting_all {jobs : List Job} (h : Paused [] q) (hr : q.isRunning = true) (hp : q.pending = [])
    (hs : q.inFlight + jobs.length ≤ q.slots) (hroom : 0 < q.room) :
    (q.operateAll (jobs.map fun job => (none, .submit job))).pending = [] ∧
      (q.operateAll (jobs.map fun job => (none, .submit job))).standing =
        q.standing ++ jobs.map fun job => (job, .calling) := by
  induction jobs generalizing q with
  | nil => exact ⟨hp, (List.append_nil _).symm⟩
  | cons job jobs ih =>
    rw [List.length_cons] at hs
    obtain ⟨hpend, hone, hl, hrun, htasks⟩ := h.submitting job hr hp (by omega) hroom
    have hslots : (q.operate none (.submit job)).slots = q.slots := by rw [slots, hl, slots]
    have hroom' : 0 < (q.operate none (.submit job)).room := by rwa [room, hl]
    obtain ⟨hpend, hall⟩ := ih (h.operate none (.submit job)).2 hrun hpend (by omega) hroom'
    refine ⟨hpend, hall.trans ?_⟩
    simp [standing, htasks]

theorem backlog_conclude (h : 1 ≤ q.inFlight) (id : Nat) (o : Outcome) : (q.conclude id o).backlog + 1 = q.backlog := by
  change q.pending.length + (q.inFlight - 1) + 1 = q.pending.length + q.inFlight
  omega

theorem backlog_handOn (q : Queue) : q.handOn.backlog = q.backlog := by
  by_cases hp : q.pending = []
  · rw [handOn_of_nil hp]
    rfl
  · obtain ⟨a, rest, hp⟩ := List.exists_cons_of_ne_nil hp
    rw [handOn_of_cons hp, backlog, backlog, hp, List.length_cons]
    change rest.length + (q.inFlight + 1) = _
    omega

theorem backlog_promote (q : Queue) : q.promote.backlog = q.backlog := by
  unfold promote
  split
  · rfl
  · next a rest hp =>
    rw [backlog, backlog, hp, List.length_cons]
    change rest.length + (q.inFlight + 1) = _
    omega

theorem tickets_promote (q : Queue) : q.promote.tickets = q.tickets := by
  unfold promote
  split <;> rfl

theorem Sound.exists_holding (h : Sound q) (hs : 1 ≤ q.slots) (hb : 0 < q.backlog) :
    ∃ t ∈ q.tasks, t.stage.holdsSlot = true := by
  have hpos : 0 < q.inFlight := by
    obtain hp | hfull := h.tight
    · simpa [backlog, hp] using hb
    · omega
  rw [h.balanced.inFlight] at hpos
  exact List.countP_pos_iff.mp hpos

theorem Paused.exists_calling (h : Paused [] q) (hs : 1 ≤ q.slots) (hb : 0 < q.backlog) :
    ∃ id, q.stage? id = some .calling := by
  obtain ⟨t, ht, -⟩ := h.sound.exists_holding hs hb
  have hst := (h.stages t ht).resolve_right (by simp)
  exact ⟨t.id, stage?_eq_some_iff.mpr ⟨t, h.sound.distinct.task?_eq_some ht, hst⟩⟩

theorem Sound.inFlight_pos_of_calling (h : Sound q) (hst : q.stage? id = some .calling) : 1 ≤ q.inFlight := by
  obtain ⟨t, ht, -, hcalling⟩ := exists_task_of_stage? hst
  exact h.balanced.inFlight_pos ht (by rw [hcalling]; rfl)

theorem Operated.finishing (h : Operated limits admitted q) (hst : q.stage? id = some .calling) (o : Outcome) :
    (q.finishing id o).backlog + 1 = q.backlog ∧
      (q.finishing id o).tickets.map Ticket.id = q.tickets.map Ticket.id ∧
      (q.finishing id o).isRunning = q.isRunning := by
  obtain ⟨-, hp⟩ := h.reaches
  have hpos := hp.sound.inFlight_pos_of_calling hst
  rw [finishing_eq hp h.running_le_peak hst, backlog_promote, tickets_promote, conclude_eq]
  refine ⟨?_, Ticketed.map_id_resolve _ _ _, ?_⟩
  · rw [← conclude_eq]
    exact backlog_conclude hpos id o
  · unfold promote
    split <;> simp [isRunning, account, setStage]

theorem Operated.finishAll? {ids : List Nat} (h : Operated limits admitted q)
    (hr : Queue.finishAll? outcome ids q = some r) :
    (∃ admitted, Operated limits admitted r) ∧ r.backlog + ids.length = q.backlog ∧
      r.tickets.map Ticket.id = q.tickets.map Ticket.id ∧ r.isRunning = q.isRunning := by
  induction ids generalizing q admitted with
  | nil =>
    cases hr
    exact ⟨⟨admitted, h⟩, rfl, rfl, rfl⟩
  | cons id ids ih =>
    obtain ⟨hst, hrest⟩ := finishAll?_cons_eq_some.mp hr
    obtain ⟨hb, hk, hrun⟩ := h.finishing hst (outcome id)
    have hnext : Operated limits _ (q.finishing id (outcome id)) := h.operate none _
    obtain ⟨hq, hbr, hkr, hrunr⟩ := ih hnext hrest
    refine ⟨hq, ?_, hkr.trans hk, hrunr.trans hrun⟩
    rw [List.length_cons]
    omega

theorem Operated.exists_finishAll? (outcome : Nat → Outcome) (hs : 1 ≤ limits.maxConcurrency.toNat)
    (h : Operated limits admitted q) :
    ∃ ids r, ids.length = q.backlog ∧ Queue.finishAll? outcome ids q = some r := by
  generalize hn : q.backlog = n
  induction n generalizing q admitted with
  | zero => exact ⟨[], q, rfl, rfl⟩
  | succ n ih =>
    obtain ⟨⟨log, hrun, -⟩, hp⟩ := h.reaches
    have hslots : 1 ≤ q.slots := by rwa [slots, hrun.moves.limits]
    obtain ⟨id, hst⟩ := hp.exists_calling hslots (by omega)
    obtain ⟨hb, -, -⟩ := h.finishing hst (outcome id)
    have hnext : Operated limits _ (q.finishing id (outcome id)) := h.operate none _
    obtain ⟨ids, r, hl, hr⟩ := ih hnext (by omega)
    exact ⟨id :: ids, r, congrArg Nat.succ hl, finishAll?_cons_eq_some.mpr ⟨hst, hr⟩⟩

theorem finishAll?_append {ids others : List Nat} (h : finishAll? outcome ids q = some r)
    (k : finishAll? outcome others r = some s) : finishAll? outcome (ids ++ others) q = some s := by
  induction ids generalizing q with
  | nil =>
    cases h
    exact k
  | cons id ids ih =>
    obtain ⟨hst, hrest⟩ := finishAll?_cons_eq_some.mp h
    exact finishAll?_cons_eq_some.mpr ⟨hst, ih hrest⟩

/-- Everything is done with, and all slots are there: as many jobs as there are slots get theirs at once. -/
structure Idle (q : Queue) : Prop where
  pending : q.pending = []
  inFlight : q.inFlight = 0
  answered : ∀ k ∈ q.tickets, (q.poll k.id).1.isSome = true
  next : ∀ job, (q.submit job).1 = .ok q.nextId
  slots : ∀ jobs : List Job, jobs.length ≤ q.slots →
    (submitAll jobs q).pending = [] ∧ (submitAll jobs q).standing = jobs.map fun job => (job, .spawned)

theorem Run.idle (h : Run attended (new limits) log q) (hc : 1 ≤ limits.maxConcurrency.toNat)
    (hm : 1 ≤ limits.maxQueueSize.toNat) (hr : q.isRunning = true) (ht : q.tasks = []) : Idle q := by
  have hs := h.sound (.new limits)
  have hl := h.moves.limits
  have hslots : 1 ≤ q.slots := by rwa [slots, hl]
  have hroom : 0 < q.room := by rwa [room, hl]
  have hi : q.inFlight = 0 := hs.balanced.inFlight_eq_zero ht
  have hp : q.pending = [] := hs.tight.resolve_right (by omega)
  constructor
  case pending => exact hp
  case inFlight => exact hi
  case answered =>
    intro k hk
    have hticketed : Ticketed log q := h.moves.ticketed (.new limits) (.new limits)
    rw [Option.isSome_iff_ne_none, Ne, hticketed.unresolved (h.moves.told (.new limits)) hk]
    simp [Owes, ht, hp]
  case next =>
    intro job
    rw [submit_of_room job hr (by rwa [hp])]
  case slots =>
    intro jobs hj
    have hall := submitAll_of_free hs.distinct hr (by simp [ht]) hp (by rwa [hi, Nat.zero_add]) hroom
    simpa [standing, ht] using hall

/-- A queue to which nothing is done but that its calls end, each with all that it sets off. -/
structure Empties (q : Queue) : Prop where
  busy : 0 < q.backlog → ∃ id, q.stage? id = some .calling
  finish : ∀ id o, q.stage? id = some .calling → (q.finishing id o).backlog + 1 = q.backlog
  schedule : ∀ outcome ids r, finishAll? outcome ids q = some r → r.backlog + ids.length = q.backlog ∧
    ∃ others s, (ids ++ others).length = q.backlog ∧ finishAll? outcome (ids ++ others) q = some s
  idle : ∀ outcome ids r, finishAll? outcome ids q = some r → ids.length = q.backlog →
    Idle r ∧ r.tickets.map Ticket.id = q.tickets.map Ticket.id ∧
      ∀ jobs : List Job, jobs.length ≤ q.slots →
        (r.operateAll (jobs.map fun job => (none, .submit job))).standing = jobs.map fun job => (job, .calling)

theorem Operated.empties (hc : 1 ≤ limits.maxConcurrency.toNat) (hm : 1 ≤ limits.maxQueueSize.toNat)
    (h : Operated limits admitted q) (hr : q.isRunning = true) : Empties q := by
  have hlimits {admitted : List Admitted} {q : Queue} (h : Operated limits admitted q) : q.limits = limits := by
    obtain ⟨⟨log, hrun, -⟩, -⟩ := h.reaches
    exact hrun.moves.limits
  constructor
  case busy => exact h.reaches.2.exists_calling (by rwa [slots, hlimits h])
  case finish => exact fun id o hst => (h.finishing hst o).1
  case schedule =>
    intro outcome ids r hids
    obtain ⟨⟨later, hlater⟩, hb, -⟩ := h.finishAll? hids
    obtain ⟨others, s, hl, hs⟩ := hlater.exists_finishAll? outcome hc
    refine ⟨hb, others, s, ?_, finishAll?_append hids hs⟩
    rw [List.length_append]
    omega
  case idle =>
    intro outcome ids r hids hl
    obtain ⟨⟨later, hlater⟩, hb, hk, hrun⟩ := h.finishAll? hids
    obtain ⟨⟨log, hreach, -⟩, hpaused⟩ := hlater.reaches
    have hattended : Run attended (Queue.new limits) log r := hreach.mono fun _ _ he => he.1
    have hrunning := hrun.trans hr
    obtain ⟨hp, hi⟩ := backlog_eq_zero.mp (by omega : r.backlog = 0)
    have htasks : r.tasks = [] := by
      refine List.eq_nil_iff_forall_not_mem.mpr fun t ht => ?_
      have hst := (hpaused.stages t ht).resolve_right (by simp)
      have hpos := hpaused.sound.balanced.inFlight_pos ht (by rw [hst]; rfl)
      omega
    refine ⟨hattended.idle hc hm hrunning htasks, hk, fun jobs hj => ?_⟩
    have hslots : q.slots = r.slots := by rw [slots, slots, hlimits h, hlimits hlater]
    have hroom : 0 < r.room := by rwa [room, hlimits hlater]
    have hroomy : r.inFlight + jobs.length ≤ r.slots := by omega
    have hall := (hpaused.submitting_all hrunning hp hroomy hroom).2
    rw [hall]
    simp [standing, htasks]

/-- A queue to which nothing is done but that its calls end, while tasks go on in any order. -/
structure EmptiesAmidst (q : Queue) (outcome : Nat → Outcome) (more : List Sign) (r : Queue) : Prop where
  backlog : r.backlog + (departuresIn more).length = q.backlog
  complete : ∀ id o, r.isFree = true → r.stage? id = some .calling → (r.completing id o).backlog + 1 = r.backlog
  busy : 0 < r.backlog → (∀ e, e.drains outcome = true → (∀ id o, e ≠ .act (.finish id o)) → r.step? e = none) →
    ∃ id, r.stage? id = some .calling
  idle : (∀ e, e.drains outcome = true → r.step? e = none) → Idle r ∧ r.tickets.map Ticket.id = q.tickets.map Ticket.id

theorem map_id_drained (outcome : Nat → Outcome) (q : Queue) :
    (q.drained outcome).tickets.map Ticket.id = q.tickets.map Ticket.id := by
  simp only [drained, List.map_map]
  exact List.map_congr_left fun k _ => k.id_awaiting _

theorem Run.emptiesAmidst (hc : 1 ≤ limits.maxConcurrency.toNat) (hm : 1 ≤ limits.maxQueueSize.toNat)
    (h : Run attended (new limits) log q) (hr : q.isRunning = true) (hd : Run (draining outcome) q more r) :
    EmptiesAmidst q outcome more r := by
  have hdrain := hd.drain (h.sound (.new limits)) hr
  have hs := hdrain.sound
  have hall : Run attended (new limits) (log ++ more) r := h.trans (hd.mono fun _ _ he => attended_of_draining he)
  have hslots : 1 ≤ r.slots := by rwa [slots, hall.moves.limits]
  constructor
  case backlog => exact hdrain.occupancy
  case complete =>
    intro id o hf hst
    rw [completing_eq hs hdrain.running hst (hall.claimedBy_of_calling hst), backlog_handOn]
    exact backlog_conclude (hs.inFlight_pos_of_calling hst) id o
  case busy =>
    intro hb hstuck
    obtain ⟨t, ht, -⟩ := hs.exists_holding hslots hb
    obtain ⟨e, s, he, hstep⟩ := exists_drains outcome hs.distinct hdrain.running (.inl (List.ne_nil_of_mem ht))
    by_cases hf : ∀ id o, e ≠ .act (.finish id o)
    · simp [hstuck e he hf] at hstep
    · simp only [not_forall, not_not] at hf
      obtain ⟨id, o, rfl⟩ := hf
      simp only [step?, act?, Option.map_eq_some_iff, Option.ite_none_right_eq_some] at hstep
      obtain ⟨-, ⟨hst, -⟩, -⟩ := hstep
      exact ⟨id, hst⟩
  case idle =>
    intro hstuck
    have ht : r.tasks = [] := by
      by_contra hne
      obtain ⟨e, s, he, hstep⟩ := exists_drains outcome hs.distinct hdrain.running (.inl hne)
      simp [hstuck e he] at hstep
    refine ⟨hall.idle hc hm hdrain.running ht, ?_⟩
    have htickets := congrArg (fun q => q.tickets.map Ticket.id) hdrain.drained
    simpa only [map_id_drained] using htickets

theorem of_isValid {c : Config} (h : c.isValid = true) :
    1 ≤ c.queue.maxConcurrency.toNat ∧ 1 ≤ c.queue.maxQueueSize.toNat := by
  have hn : c.problems = [] := List.isEmpty_iff.mp h
  have hpos {field : String} {n : UInt64} (hf : Config.checkPositive field n = []) : 1 ≤ n.toNat := by
    unfold Config.checkPositive at hf
    split at hf
    · cases hf
    · next hz => exact Nat.pos_of_ne_zero fun hn => hz (UInt64.toNat_inj.mp hn)
  simp only [Config.problems, List.append_eq_nil_iff, and_assoc] at hn
  obtain ⟨-, -, -, -, hconcurrency, hsize, -⟩ := hn
  exact ⟨hpos hconcurrency, hpos hsize⟩

/-- With limits that pass the checks, a queue that still runs empties: as long as a job is not done with there is a call
that can end, each end leaves one job less, and however the calls end, in the end every ticket has its answer and all
slots can be had again. No row of steps on the way there is longer than what is left to do. -/
theorem backlog_drains {c : Config} (hc : c.isValid = true) :
    (∀ admitted q, Operated c.queue admitted q → q.isRunning = true → Empties q) ∧
      ∀ log q, Run attended (new c.queue) log q → q.isRunning = true → ∀ outcome,
        (∀ more r, Run (draining outcome) q more r → EmptiesAmidst q outcome more r) ∧
        ∀ es more r, (∀ e ∈ es, e.drains outcome = true) → q.play? es = some (more, r) → es.length ≤ q.labour := by
  obtain ⟨hconcurrency, hsize⟩ := of_isValid hc
  refine ⟨fun admitted q h hr => h.empties hconcurrency hsize hr, fun log q h hr outcome => ⟨fun more r hd => ?_, ?_⟩⟩
  · exact h.emptiesAmidst hconcurrency hsize hr hd
  · intro es more r he hp
    have hle := length_le_of_play? (h.sound (.new c.queue)).distinct he hp
    omega

/-- A configuration that asks for nothing in particular, but for its limits. -/
def plainConfig (limits : Config.Queue) : Config := { forwarding := { origin := "http://up.test" }, queue := limits }

theorem backlog_drains_crowded : (plainConfig ⟨2, 2⟩).isValid = true ∧ (plainConfig ⟨1, 1⟩).isValid = true ∧
    (∃ admitted q r, Operated ⟨2, 2⟩ admitted q ∧ q.backlog = 4 ∧ q.pending.map Admitted.id = [3, 4] ∧ Empties q ∧
      finishAll? (fun _ => .panic) [2, 3, 1, 4] q = some r ∧ Idle r ∧
      (r.operateAll [(none, .submit plainJob), (none, .submit plainJob)]).standing =
        [(plainJob, .calling), (plainJob, .calling)]) ∧
    ∃ log q more r, (new ⟨1, 1⟩).play? (overtaking.take 6) = some (log, q) ∧
      q.play? (panicking 2 [.act (.spawn (.release 2))] ++ .act (.start 1) :: panicking 1 []) = some (more, r) ∧
      r.backlog = 0 ∧ EmptiesAmidst q (fun _ => .panic) more r ∧ 12 ≤ q.labour := by
  have htwo : (plainConfig ⟨2, 2⟩).isValid = true := by decide +kernel
  have hone : (plainConfig ⟨1, 1⟩).isValid = true := by decide +kernel
  refine ⟨htwo, hone, ?_, ?_⟩
  · obtain ⟨admitted, q, h, hr, hb, hp, hs, r, hids⟩ : ∃ admitted q, Operated ⟨2, 2⟩ admitted q ∧ q.isRunning = true ∧
        q.backlog = 4 ∧ q.pending.map Admitted.id = [3, 4] ∧ q.slots = 2 ∧
        ∃ r, finishAll? (fun _ => .panic) [2, 3, 1, 4] q = some r :=
      ⟨_, _, .operate none (.submit plainJob) (.operate none (.submit plainJob) (.operate none (.submit plainJob)
        (.operate none (.submit plainJob) .new))), rfl, rfl, rfl, rfl, _, rfl⟩
    have he := (backlog_drains htwo).1 admitted q h hr
    obtain ⟨hidle, -, hall⟩ := he.idle _ _ r hids hb.symm
    exact ⟨admitted, q, r, h, hb, hp, he, hids, hidle, hall [plainJob, plainJob] (Nat.le_of_eq hs.symm)⟩
  · obtain ⟨log, q, h, hr, more, r, hm, hb⟩ : ∃ log q, (new ⟨1, 1⟩).play? (overtaking.take 6) = some (log, q) ∧
        q.isRunning = true ∧ ∃ more r, q.play? (panicking 2 [.act (.spawn (.release 2))] ++
          .act (.start 1) :: panicking 1 []) = some (more, r) ∧ r.backlog = 0 :=
      ⟨_, _, rfl, rfl, _, _, rfl, rfl⟩
    have hrun : Run attended (new ⟨1, 1⟩) log q := run_of_play? (by simp [overtaking, attended]) h
    have hdrains : ∀ e ∈ panicking 2 [.act (.spawn (.release 2))] ++ .act (.start 1) :: panicking 1 [],
        e.drains (fun _ => .panic) = true := by
      simp [panicking, Event.drains, Event.unwinds]
    obtain ⟨hamidst, hlength⟩ := (backlog_drains hone).2 log q hrun hr fun _ => .panic
    exact ⟨log, q, more, r, h, hm, hb, hamidst more r (run_of_play? (fun e he _ => hdrains e he) hm),
      hlength _ more r hdrains hm⟩

end Turnstile.Queue
