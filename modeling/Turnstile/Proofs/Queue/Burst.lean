import Turnstile.Proofs.Queue.Filling

namespace Turnstile.Queue

variable {q r : Queue} {t : Task} {log : List Sign} {limits : Config.Queue}

def fromOutside (admitted : List Admitted) : List Ready := admitted.map fun a => ⟨a.id, .outside⟩

/-- One executor in the middle of a burst: whatever has not started is on the run queue, and was put there in order. -/
structure Surging (q : Queue) : Prop where
  sound : Sound q
  free : q.isFree = true
  stages : ∀ t ∈ q.tasks, t.stage = .spawned ∨ t.stage = .calling
  runtime : ∃ looks, q.runtime = some ⟨looks, fromOutside q.unstarted⟩

namespace Surging

theorem isRunning (h : Surging q) : q.isRunning = true := by
  obtain ⟨looks, hr⟩ := h.runtime
  exact isRunning_of_runtime hr

theorem claimedBy (h : Surging q) (launcher : Launcher) : q.claimedBy launcher = [] := by
  simp only [Queue.claimedBy, List.map_eq_nil_iff, List.filter_eq_nil_iff, decide_eq_true_iff]
  intro t ht
  obtain hs | hs := h.stages t ht <;> simp [hs]

theorem handed {id : Nat} {job : Job} (h : Surging q) (hr : Sound r)
    (hh : Handed (.submission id) (q.draw.enter id job) r) :
    Surging r ∧ r.nextId = q.nextId + 1 ∧ r.refusing = q.refusing := by
  obtain ⟨looks, hrt⟩ := h.runtime
  cases hh with
  | none measures => exact ⟨⟨hr, h.free, h.stages, looks, hrt⟩, rfl, rfl⟩
  | next a rest measures hp =>
    refine ⟨⟨hr, h.free, fun t ht => ?_, looks, ?_⟩, rfl, rfl⟩
    · obtain ht | ht := List.mem_append.mp ht
      · exact h.stages t ht
      · rw [List.mem_singleton.mp ht]
        exact .inl rfl
    · have hu : unstartedAmong (q.tasks ++ [⟨a, .spawned⟩]) = q.unstarted ++ [a] := by
        rw [unstartedAmong_append]
        rfl
      simp [dispatch, draw, enter, hrt, unstarted, hu, Launcher.lane, fromOutside]

theorem run_submission (h : Surging q) (job : Job) :
    Run bursting q [.ofSubmission q.nextId job (q.draw.submitSection q.nextId job).1]
      (q.draw.submitSection q.nextId job).2 := by
  have hdraw : Run bursting q [] q.draw :=
    Run.single (e := .act .draw) ⟨rfl, by simp [serial, attended]⟩ (by simp [step?, act?, h.isRunning])
  have hrun : q.draw.isRunning = true := h.isRunning
  have hfree : q.draw.isFree = true := h.free
  have hmem : q.draw.drawn.contains q.nextId = true := by simp [draw]
  have hsection : Run bursting q.draw _ (q.draw.submitSection q.nextId job).2 :=
    Run.single (e := .act (.submit q.nextId job)) ⟨rfl, by simp [serial, attended]⟩
      (by simp only [step?, act?, hrun, hmem, hfree]; rfl)
  exact hdraw.trans hsection

theorem submit (h : Surging q) (job : Job) :
    Run bursting q [.ofSubmission q.nextId job (q.submit job).1] (q.submit job).2 ∧ Surging (q.submit job).2 ∧
      (q.submit job).2.nextId = q.nextId + 1 ∧ (q.submit job).2.refusing = q.refusing := by
  have hsection := h.run_submission job
  have hsound {log : List Sign} {r : Queue} (k : Run bursting q log r) : Sound r :=
    (k.mono fun _ _ hb => attended_of_filling hb.1).sound h.sound
  obtain hp | hp := Nat.lt_or_ge q.pending.length q.room
  · rw [submitSection_of_room (q := q.draw) q.nextId job hp] at hsection
    rw [submit_of_room job h.isRunning hp]
    have henter : Distinct (q.draw.enter q.nextId job) := h.sound.distinct.draw.enter (by simp [draw]) job
    have hone : (q.draw.enter q.nextId job).slots - (q.draw.enter q.nextId job).inFlight ≤ 1 ∨
        (q.draw.enter q.nextId job).pending.length ≤ 1 := by
      obtain hn | hs := h.sound.tight
      · exact .inr (by simp [enter, draw, hn])
      · refine .inl ?_
        change q.slots - q.inFlight ≤ 1
        omega
    obtain ⟨hh, -⟩ := handed_launch (q := q.draw.enter q.nextId job) henter h.isRunning (h.claimedBy _) hone
    have hrun : (q.draw.accept q.nextId job).isRunning = true := by
      rw [accept, isRunning_claim]
      exact h.isRunning
    have hlaunch : Run bursting (q.draw.accept q.nextId job) [] _ :=
      run_of_play? (by simp [bursting, filling, Event.vacates, Event.givesBack, serial, attended])
        (play?_launch (.submission q.nextId) hrun (hsound hsection).distinct)
    have hall := hsection.trans hlaunch
    exact ⟨hall, h.handed (hsound hall) hh⟩
  · rw [submitSection_of_full (q := q.draw) q.nextId job hp] at hsection
    rw [submit_of_full job h.isRunning hp]
    have hcount : Run bursting (q.draw.refuse q.nextId) [] (q.draw.refuse q.nextId).countRefusal :=
      Run.single (e := .act .countRefusal) ⟨rfl, by simp [serial, attended]⟩ (by simp [step?, act?, refuse])
    have hall := hsection.trans hcount
    exact ⟨hall, ⟨hsound hall, h.free, h.stages, h.runtime⟩, rfl, rfl⟩

end Surging

def toldEach : List Job → Queue → List (Except Rejection Nat)
  | [], _ => []
  | job :: jobs, q => (q.submit job).1 :: toldEach jobs (q.submit job).2

def numbered (next : Nat) (jobs : List Job) : List Admitted := (jobs.zipIdx next).map fun x => ⟨x.2, x.1⟩

theorem numbered_cons (next : Nat) (job : Job) (jobs : List Job) :
    numbered next (job :: jobs) = ⟨next, job⟩ :: numbered (next + 1) jobs := rfl

/-- What a row of submissions on one executor comes to, of which so many are admitted. -/
structure Surge (q : Queue) (jobs : List Job) (admitted : Nat) (log : List Sign) : Prop where
  run : Run bursting q log (submitAll jobs q)
  surging : Surging (submitAll jobs q)
  refusing : (submitAll jobs q).refusing = q.refusing
  told : toldEach jobs q = (List.range' q.nextId admitted).map .ok ++
    List.replicate (jobs.length - admitted) (.error (.full q.room q.room))
  numbers : (numbersIn log).length = jobs.length
  admissions : admissionsIn log = (numbered q.nextId jobs).take admitted

theorem Surging.surge (h : Surging q) (hr : 0 < q.room) (jobs : List Job) :
    ∃ log, Surge q jobs (q.admissible jobs.length) log := by
  induction jobs generalizing q with
  | nil =>
    refine ⟨[], .refl, h, rfl, ?_, rfl, ?_⟩
    · simp [toldEach, admissible]
    · rfl
  | cons job jobs ih =>
    obtain ⟨hrun, hsurging, hnext, hrefusing⟩ := h.submit job
    have hl := hrun.moves.limits
    have hslots : (q.submit job).2.slots = q.slots := by rw [slots, slots, hl]
    have hroom : (q.submit job).2.room = q.room := by rw [room, room, hl]
    have hocc := hrun.moves.occupancy h.sound.distinct h.sound.balanced
    obtain ⟨log, hs⟩ := ih hsurging (hroom ▸ hr)
    have htold := hs.told
    have hadmissions := hs.admissions
    rw [hnext, hroom] at htold
    rw [hnext] at hadmissions
    obtain hp | hp := Nat.lt_or_ge q.pending.length q.room
    · have hok : (q.submit job).1 = .ok q.nextId := by rw [submit_of_room job h.isRunning hp]
      rw [hok] at hrun hocc
      have hb : (q.submit job).2.backlog = q.backlog + 1 := hocc
      have hn : q.admissible (jobs.length + 1) = (q.submit job).2.admissible jobs.length + 1 := by
        have hle := h.sound.balanced.slots
        rw [admissible, admissible, hslots, hroom, hb, backlog]
        omega
      rw [List.length_cons, hn]
      refine ⟨_, hrun.trans hs.run, hs.surging, hs.refusing.trans hrefusing, ?_, congrArg (· + 1) hs.numbers, ?_⟩
      · rw [toldEach, hok, htold, List.range'_succ, List.length_cons, Nat.add_sub_add_right]
        rfl
      · rw [numbered_cons, List.take_succ_cons, ← hadmissions]
        rfl
    · have hfull : q.pending.length = q.room := Nat.le_antisymm h.sound.balanced.room hp
      have hbusy := (h.sound.busy hfull hr).1
      have herror : (q.submit job).1 = .error (.full q.room q.room) := by
        rw [submit_of_full job h.isRunning hp, hfull]
      rw [herror] at hrun hocc
      have hb : (q.submit job).2.backlog = q.backlog := hocc
      have hnone (n : Nat) : q.admissible n = 0 := by
        rw [admissible, backlog]
        omega
      have hnone' : (q.submit job).2.admissible jobs.length = 0 := by
        rw [← hnone jobs.length, admissible, admissible, hslots, hroom, hb]
      rw [hnone'] at htold hadmissions
      rw [List.length_cons, hnone]
      refine ⟨_, hrun.trans hs.run, hs.surging, hs.refusing.trans hrefusing, ?_, congrArg (· + 1) hs.numbers,
        hadmissions⟩
      rw [toldEach, herror, htold]
      rfl

theorem look_fromOutside {a : Admitted} {rest : List Admitted} {looks : Nat}
    (hr : q.runtime = some ⟨looks, fromOutside (a :: rest)⟩) :
    q.look = (some a.id, { q with runtime := some ⟨looks + 1, fromOutside rest⟩ }) := by
  have hinside : (fromOutside rest).find? (·.lane = .inside) = none :=
    List.find?_eq_none.mpr fun x hx => by
      obtain ⟨b, -, rfl⟩ := List.mem_map.mp hx
      simp
  have hnext : (Runtime.mk (looks + 1) (⟨a.id, .outside⟩ :: fromOutside rest)).next? = some ⟨a.id, .outside⟩ := by
    simp [Runtime.next?, Runtime.firstOf, hinside]
  have hcons : fromOutside (a :: rest) = ⟨a.id, .outside⟩ :: fromOutside rest := rfl
  simp [look, hr, hcons, hnext, dequeue]

namespace Surging

variable {a : Admitted} {rest : List Admitted}

theorem exists_spawned (h : Surging q) (hu : q.unstarted = a :: rest) :
    ∃ t ∈ q.tasks, t.admitted = a ∧ t.stage = .spawned := by
  have ha : a ∈ unstartedAmong q.tasks := by
    change a ∈ q.unstarted
    rw [hu]
    exact List.mem_cons_self
  obtain ⟨t, ht, rfl⟩ := List.mem_map.mp ha
  obtain ⟨htm, hts⟩ := List.mem_filter.mp ht
  exact ⟨t, htm, rfl, (h.stages t htm).resolve_right fun hc => by simp [hc, Stage.isUnstarted] at hts⟩

theorem turn (h : Surging q) (hu : q.unstarted = t.admitted :: rest) (ht : t ∈ q.tasks) (hst : t.stage = .spawned)
    (looks : Nat) :
    Run bursting q [.called t.admitted] (startTask t { q with runtime := some ⟨looks + 1, fromOutside rest⟩ }) := by
  have hfind := h.sound.distinct.task?_eq_some ht
  let looked : Queue := { q with runtime := some ⟨looks + 1, fromOutside (t.admitted :: rest)⟩ }
  have hschedule : Run bursting q [] looked :=
    Run.single (e := .schedule ⟨looks + 1, fromOutside (t.admitted :: rest)⟩) ⟨rfl, by simp [serial, attended]⟩
      (by simp [step?, h.isRunning, looked])
  have hlooked : looked.task? t.id = some t := hfind
  have hserial : serial looked (.act (.start t.id)) := by
    refine ⟨by simp [attended], fun i => ⟨by simp, fun hi => ?_⟩⟩
    cases hi
    change q.unstarted.head?.map Admitted.id = some t.id
    rw [hu]
    rfl
  have hdequeue : looked.dequeue t.id = { q with runtime := some ⟨looks + 1, fromOutside rest⟩ } := by
    simp [looked, dequeue, fromOutside, Task.id]
  have hstep : looked.step? (.act (.start t.id)) =
      some (startTask t { q with runtime := some ⟨looks + 1, fromOutside rest⟩ }) := by
    have hstage : looked.stage? t.id = some .spawned := stage?_eq_some_iff.mpr ⟨t, hfind, hst⟩
    have hrun : looked.isRunning = true := rfl
    have hstart : start t.id { q with runtime := some ⟨looks + 1, fromOutside rest⟩ } = _ := start_eq hfind
    simp [step?, act?, hstage, hrun, hdequeue, hstart]
  have hsigns : looked.signs (.act (.start t.id)) = [.called t.admitted] := by simp [signs, callSigns, hlooked]
  have hcall : Run bursting looked _ _ := Run.single (e := .act (.start t.id)) ⟨rfl, hserial⟩ hstep
  rw [hsigns] at hcall
  exact hschedule.trans hcall

theorem next (h : Surging q) (hu : q.unstarted = a :: rest) :
    ∃ p, q.look = (some a.id, p) ∧ Run bursting q [.called a] (p.resume none a.id) ∧ Surging (p.resume none a.id) ∧
      (p.resume none a.id).unstarted = rest ∧ (p.resume none a.id).refusing = q.refusing := by
  obtain ⟨looks, hrt⟩ := h.runtime
  obtain ⟨t, ht, rfl, hst⟩ := h.exists_spawned hu
  obtain ⟨before, after, hstands⟩ := h.sound.distinct.stands ht
  have hrest : (q.setStage t.id .calling).unstarted = rest := by
    have hstart := unstarted_start hstands (by rw [hst]; rfl) (by rw [hu]; rfl) (s := .calling) rfl
    exact (List.cons.inj (hstart.symm.trans hu)).2
  have hrun := h.turn hu ht hst looks
  have hfind := h.sound.distinct.task?_eq_some ht
  have hresume : resume none t.admitted.id { q with runtime := some ⟨looks + 1, fromOutside rest⟩ } =
      startTask t { q with runtime := some ⟨looks + 1, fromOutside rest⟩ } := by
    have hstage : stage? { q with runtime := some ⟨looks + 1, fromOutside rest⟩ } t.admitted.id = some .spawned :=
      stage?_eq_some_iff.mpr ⟨t, hfind, hst⟩
    rw [resume, hstage]
    exact start_eq hfind
  refine ⟨_, look_fromOutside (hu ▸ hrt), ?_⟩
  rw [hresume]
  refine ⟨hrun, ⟨?_, h.free, fun u hm => ?_, looks + 1, ?_⟩, hrest, rfl⟩
  · exact (hrun.mono fun _ _ hb => attended_of_filling hb.1).sound h.sound
  · obtain ⟨-, hs⟩ | ⟨-, hm⟩ := of_mem_setStage hm
    · exact .inr hs
    · exact h.stages u hm
  · change some (Runtime.mk (looks + 1) (fromOutside rest)) = some ⟨looks + 1, fromOutside _⟩
    exact congrArg (fun us => some (Runtime.mk (looks + 1) (fromOutside us))) hrest.symm

end Surging

theorem Surging.settleWithin (h : Surging q) (fuel : Nat) (hf : q.unstarted.length < fuel) :
    ∃ log, Run bursting q log (q.settleWithin none fuel) ∧ numbersIn log = [] ∧ admissionsIn log = [] ∧
      (q.settleWithin none fuel).unstarted = [] ∧ (q.settleWithin none fuel).refusing = q.refusing := by
  induction fuel generalizing q with
  | zero => exact absurd hf (Nat.not_lt_zero _)
  | succ fuel ih =>
    cases hu : q.unstarted with
    | nil =>
      obtain ⟨looks, hrt⟩ := h.runtime
      rw [hu] at hrt
      have hschedule : Run bursting q [] { q with runtime := some ⟨looks + 1, []⟩ } :=
        Run.single (e := .schedule ⟨looks + 1, []⟩) ⟨rfl, by simp [serial, attended]⟩ (by simp [step?, h.isRunning])
      rw [settleWithin_of_idle hrt]
      exact ⟨[], hschedule, rfl, rfl, hu, rfl⟩
    | cons a rest =>
      obtain ⟨p, hlook, hrun, hsurging, hrest, hrefusing⟩ := h.next hu
      rw [hu, List.length_cons] at hf
      obtain ⟨log, hmore, hn, ha, hstarted, hr⟩ := ih hsurging (by rw [hrest]; omega)
      have hsettle : q.settleWithin none (fuel + 1) = (p.resume none a.id).settleWithin none fuel := by
        rw [Queue.settleWithin, hlook]
      rw [hsettle]
      exact ⟨_, hrun.trans hmore, hn, ha, hstarted, hr.trans hrefusing⟩

theorem Surging.settle (h : Surging q) : ∃ log, Run bursting q log (q.settle none) ∧ numbersIn log = [] ∧
    admissionsIn log = [] ∧ (q.settle none).unstarted = [] ∧ (q.settle none).refusing = q.refusing := by
  obtain ⟨looks, hrt⟩ := h.runtime
  refine h.settleWithin _ ?_
  have hready : q.readyCount = q.unstarted.length := by simp [readyCount, hrt, fromOutside]
  omega

theorem Paused.surging (h : Paused [] q) (hr : q.isRunning = true) : Surging q ∧ q.unstarted = [] := by
  have hcall : ∀ t ∈ q.tasks, t.stage = .calling := fun t ht => (h.stages t ht).resolve_right (by simp)
  have hu : q.unstarted = [] := by
    simp only [unstarted, unstartedAmong, List.map_eq_nil_iff, List.filter_eq_nil_iff]
    intro t ht
    simp [hcall t ht, Stage.isUnstarted]
  obtain ⟨⟨looks, ready⟩, hrt⟩ := Option.isSome_iff_exists.mp hr
  obtain rfl : ready = [] := h.ready _ hrt
  exact ⟨⟨h.sound, h.quiet.1, fun t ht => .inr (hcall t ht), looks, by rw [hrt, hu]; rfl⟩, hu⟩

/-- What a row of submissions comes to that are made one after the other on one executor, once all that they set off
has happened. -/
structure Burst (q : Queue) (jobs : List Job) (r : Queue) : Prop where
  told : toldEach jobs q = (List.range' q.nextId (q.admissible jobs.length)).map .ok ++
    List.replicate (jobs.length - q.admissible jobs.length) (.error (.full q.room q.room))
  inFlight : r.inFlight = min q.slots (q.backlog + jobs.length)
  pending : r.pending.length = min q.room (q.backlog + jobs.length - q.slots)
  admittedTotal : r.totals.admitted = q.totals.admitted + q.admissible jobs.length
  rejectedTotal : r.totals.rejected = q.totals.rejected + (jobs.length - q.admissible jobs.length)
  calls : r.calls = q.calls ++ (numbered q.nextId jobs).take (q.startable jobs.length)

theorem startable_le_admissible (q : Queue) (n : Nat) : q.startable n ≤ q.admissible n := by
  rw [startable, admissible]
  omega

theorem Run.burst (h : Run attended (new limits) log q) (hp : Paused [] q) (hr : q.isRunning = true)
    (hroom : 0 < q.room) (jobs : List Job) : Burst q jobs ((submitAll jobs q).settle none) := by
  obtain ⟨hsurging, hu⟩ := hp.surging hr
  obtain ⟨first, hs⟩ := hsurging.surge hroom jobs
  obtain ⟨rest, hrest, hnumbers, hadmissions, hstarted, hrefusing⟩ := hs.surging.settle
  have hrun := hs.run.trans hrest
  have hf := h.filled hroom (hrun.mono fun _ _ hb => hb.1)
  have hcount : (numbersIn (first ++ rest)).length = jobs.length := by
    rw [numbersIn_append, hnumbers, List.append_nil, hs.numbers]
  have hnames : admissionsIn (first ++ rest) = (numbered q.nextId jobs).take (q.admissible jobs.length) := by
    rw [admissionsIn_append, hadmissions, List.append_nil, hs.admissions]
  constructor
  case told => exact hs.told
  case inFlight => rw [hf.inFlight, hcount]
  case pending => rw [hf.pending, hcount]
  case admittedTotal => rw [hf.admittedTotal, hcount]
  case rejectedTotal =>
    have htotal := hf.rejectedTotal
    rw [hrefusing, hs.refusing, hcount] at htotal
    omega
  case calls =>
    have hcalled := hf.inTurn hrun
    rw [hu, hstarted, List.append_nil, List.nil_append, hcount, hnames, List.take_take,
      Nat.min_eq_left (q.startable_le_admissible _)] at hcalled
    rw [hf.calls, hcalled]

theorem Moves.admissionsIn_eq_nil (h : Moves q log r) (hq : q.room = 0) : admissionsIn log = [] := by
  induction h with
  | refl => rfl
  | @move log more q r hm m ih =>
    have hroom : q.room = 0 := by rw [room, hm.limits, ← room, hq]
    rw [admissionsIn_append, ih, List.nil_append]
    cases m with
    | enter _ hp =>
      rw [hroom] at hp
      exact absurd hp (Nat.not_lt_zero _)
    | _ => rfl

theorem numbersIn_eq_refusalsIn (h : admissionsIn log = []) : numbersIn log = refusalsIn log := by
  induction log with
  | nil => rfl
  | cons sign log ih =>
    cases sign with
    | admitted => cases h
    | refused id pending limit => exact congrArg (id :: ·) (ih h)
    | _ => exact ih h

/-- Every submission is refused: each that is made, and each that was made. -/
structure Closed (log : List Sign) (q : Queue) : Prop where
  refused : numbersIn log = refusalsIn log
  submit : q.isRunning = true → ∀ job, (q.submit job).1 = .error (.full 0 0)
  entering : ∀ id job, (q.submitSection id job).1 = .error (.full 0 0)

theorem Moves.closed (h : Moves (new limits) log q) (hz : limits.maxQueueSize.toNat = 0) : Closed log q := by
  have hroom : q.room = 0 := by rw [room, h.limits]; exact hz
  have hb : Balanced q := h.balanced (distinct_new limits) (.new limits)
  have hp : q.pending.length = 0 := Nat.le_zero.mp (hroom ▸ hb.room)
  have hadmission := hb.admission (h.distinct (distinct_new limits))
  constructor
  case refused => exact numbersIn_eq_refusalsIn (h.admissionsIn_eq_nil hz)
  case submit =>
    intro hr job
    rw [(hadmission job).refused hr (hp.trans hroom.symm), hroom]
  case entering =>
    intro id job
    rw [(hadmission job).entering id (hp.trans hroom.symm), hroom]

/-- The burst law. While no slot is given back, of all submissions, by however many callers, the first are admitted, as
many as slots and room are left for, and the later ones are refused; and whoever of the first finds a slot free gets it,
in order. On one executor the calls that start are theirs, in order. Where no job may wait, nobody is ever admitted. -/
theorem burst_law (limits : Config.Queue) :
    (0 < limits.maxQueueSize.toNat →
      (∀ log q, Run attended (new limits) log q → q.limits = limits ∧
        ∀ more r, Run filling q more r → Filled q more r) ∧
      ∀ admitted q, Operated limits admitted q → q.isRunning = true → q.limits = limits ∧
        ∀ jobs, Burst q jobs ((submitAll jobs q).settle none)) ∧
    (limits.maxQueueSize.toNat = 0 → ∀ allowed log q, Run allowed (new limits) log q → Closed log q) := by
  refine ⟨fun hpos => ⟨fun log q h => ?_, fun admitted q h hr => ?_⟩, fun hz allowed log q h => h.moves.closed hz⟩
  · have hl : q.limits = limits := h.moves.limits
    exact ⟨hl, fun more r k => h.filled (by rwa [room, hl]) k⟩
  · obtain ⟨⟨log, hrun, -⟩, hp⟩ := h.reaches
    have hl : q.limits = limits := hrun.moves.limits
    exact ⟨hl, (hrun.mono fun _ _ hs => hs.1).burst hp hr (by rwa [room, hl])⟩

def crowding : List Event :=
  [.act .draw, .act .draw, .act .draw, .act (.submit 2 plainJob), .act (.submit 1 plainJob), .act (.submit 3 plainJob),
    .act (.spawn (.submission 2)), .act .countRefusal]

theorem burst_law_crowding :
    (∃ log q, (new ⟨1, 1⟩).play? crowding = some (log, q) ∧ numbersIn log = [2, 1, 3] ∧ Filled (new ⟨1, 1⟩) log q) ∧
    (∃ admitted q, Operated ⟨2, 2⟩ admitted q ∧ q.backlog = 1 ∧
      toldEach [plainJob, plainJob, plainJob, plainJob] q = [.ok 2, .ok 3, .ok 4, .error (.full 2 2)] ∧
      Burst q [plainJob, plainJob, plainJob, plainJob]
        ((submitAll [plainJob, plainJob, plainJob, plainJob] q).settle none)) ∧
    ∃ log q, (new ⟨3, 0⟩).play? [.act .draw, .act (.submit 1 plainJob), .act .countRefusal] = some (log, q) ∧
      Closed log q := by
  refine ⟨?_, ?_, ?_⟩
  · obtain ⟨log, q, h, hn⟩ : ∃ log q, (new ⟨1, 1⟩).play? crowding = some (log, q) ∧ numbersIn log = [2, 1, 3] :=
      ⟨_, _, rfl, rfl⟩
    have hrun : Run filling (new ⟨1, 1⟩) log q :=
      run_of_play? (by simp [crowding, filling, Event.vacates, Event.givesBack]) h
    exact ⟨log, q, h, hn, (((burst_law ⟨1, 1⟩).1 (by decide)).1 [] _ .refl).2 log q hrun⟩
  · obtain ⟨admitted, q, h, hr, hb, ht⟩ : ∃ admitted q, Operated ⟨2, 2⟩ admitted q ∧ q.isRunning = true ∧
        q.backlog = 1 ∧
        toldEach [plainJob, plainJob, plainJob, plainJob] q = [.ok 2, .ok 3, .ok 4, .error (.full 2 2)] :=
      ⟨_, _, .operate none (.submit plainJob) .new, rfl, rfl, rfl⟩
    exact ⟨admitted, q, h, hb, ht, (((burst_law ⟨2, 2⟩).1 (by decide)).2 admitted q h hr).2 _⟩
  · obtain ⟨log, q, h⟩ : ∃ log q, (new ⟨3, 0⟩).play?
        [.act .draw, .act (.submit 1 plainJob), .act .countRefusal] = some (log, q) := ⟨_, _, rfl⟩
    have hrun : Run attended (new ⟨3, 0⟩) log q := run_of_play? (by simp [attended]) h
    exact ⟨log, q, h, (burst_law ⟨3, 0⟩).2 rfl attended log q hrun⟩

end Turnstile.Queue
