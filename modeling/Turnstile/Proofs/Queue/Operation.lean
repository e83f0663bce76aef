import Turnstile.Proofs.Queue.Turn

namespace Turnstile.Queue

variable {q r : Queue} {id : Nat} {o : Outcome}

def admittedBy (job : Job) (q : Queue) : List Admitted :=
  match (q.submit job).1 with
  | .ok id => [⟨id, job⟩]
  | .error _ => []

def decidedBy (job : Job) (q : Queue) : List Sign := decisionsIn [.ofSubmission q.nextId job (q.submit job).1]

theorem submitSection_of_full (id : Nat) (job : Job) (hp : q.room ≤ q.pending.length) :
    q.submitSection id job = (.error (.full q.pending.length q.room), q.refuse id) := if_pos hp

theorem submitSection_of_room (id : Nat) (job : Job) (hp : q.pending.length < q.room) :
    q.submitSection id job = (.ok id, q.accept id job) := if_neg (Nat.not_le_of_lt hp)

theorem submit_of_full (job : Job) (hr : q.isRunning = true) (hp : q.room ≤ q.pending.length) :
    q.submit job = (.error (.full q.pending.length q.room), (q.draw.refuse q.nextId).countRefusal) := by
  have hsec := submitSection_of_full (q := q.draw) q.nextId job hp
  simp only [submit, hr, hsec]
  rfl

theorem submit_of_room (job : Job) (hr : q.isRunning = true) (hp : q.pending.length < q.room) :
    q.submit job = (.ok q.nextId, (q.draw.accept q.nextId job).launch (.submission q.nextId)) := by
  have hsec := submitSection_of_room (q := q.draw) q.nextId job hp
  simp only [submit, hr, hsec]
  rfl

namespace Paused

theorem drawn_draw (h : Paused [] q) : q.draw.drawn = [q.nextId] := by
  simp [draw, h.quiet.2.1]

theorem erase_drawn_draw (h : Paused [] q) : q.draw.drawn.erase q.nextId = [] := by
  simp [h.drawn_draw]

theorem submitSection (h : Paused [] q) (hr : q.isRunning = true) (job : Job) :
    Reaches q [.ofSubmission q.nextId job (q.draw.submitSection q.nextId job).1]
      (q.draw.submitSection q.nextId job).2 := by
  have hdraw : Reaches q [] q.draw :=
    .step (e := .act .draw) (by simp [serial, attended]) (by simp) (by simp [step?, act?, hr])
  have hrun : q.draw.isRunning = true := hr
  have hfree : q.draw.isFree = true := h.quiet.1
  have hstep : q.draw.step? (.act (.submit q.nextId job)) = some (q.draw.submitSection q.nextId job).2 := by
    simp [step?, act?, hrun, hfree, h.drawn_draw]
  refine hdraw.trans ⟨_, Run.single (by simp [serial, attended]) hstep, ?_⟩
  change decisionsIn [.ofSubmission q.nextId job (q.draw.submitSection q.nextId job).1] = _
  unfold Queue.submitSection
  split <;> rfl

theorem refused (h : Paused [] q) (hr : q.isRunning = true) (hp : q.room ≤ q.pending.length) (job : Job) :
    Reaches q [.refused q.nextId q.pending.length q.room] (q.submit job).2 ∧ Paused [] (q.submit job).2 := by
  have hsec : Reaches q [.refused q.nextId q.pending.length q.room] (q.draw.refuse q.nextId) := by
    have hs := h.submitSection hr job
    rwa [submitSection_of_full (q := q.draw) q.nextId job hp] at hs
  have hq : Reaches q [.refused q.nextId q.pending.length q.room] (q.draw.refuse q.nextId).countRefusal :=
    hsec.snoc (.step (e := .act .countRefusal) (by simp [serial, attended]) (by simp) (by simp [step?, act?, refuse]))
  rw [submit_of_full job hr hp]
  refine ⟨hq, hq.sound h.sound, ⟨h.quiet.1, h.erase_drawn_draw, ?_⟩, h.ready, h.stages, h.stopped⟩
  simp [countRefusal, refuse, draw, h.quiet.2.2]

theorem accepted (h : Paused [] q) (hr : q.isRunning = true) (hp : q.pending.length < q.room) (job : Job) :
    Reaches q [.admitted ⟨q.nextId, job⟩] (q.submit job).2 ∧ ∃ busy, Paused busy (q.submit job).2 ∧ busy.length ≤ 1 := by
  have hsec : Reaches q [.admitted ⟨q.nextId, job⟩] (q.draw.accept q.nextId job) := by
    have hs := h.submitSection hr job
    rwa [submitSection_of_room (q := q.draw) q.nextId job hp] at hs
  have hent : Move q.draw [.admitted ⟨q.nextId, job⟩] (q.draw.enter q.nextId job) :=
    .enter (by simp [h.drawn_draw]) hp
  have hone : (q.draw.enter q.nextId job).slots - (q.draw.enter q.nextId job).inFlight ≤ 1 ∨
      (q.draw.enter q.nextId job).pending.length ≤ 1 := by
    obtain hn | hs := h.sound.tight
    · exact .inr (by simp [enter, draw, hn])
    · refine .inl ?_
      change q.slots - q.inFlight ≤ 1
      omega
  obtain ⟨hh, hl⟩ := handed_launch (hent.distinct h.sound.distinct.draw) hr (h.claimedBy _) hone
  have hq := hsec.snoc hl
  have hquiet : Quiet (q.draw.enter q.nextId job) := ⟨h.quiet.1, h.erase_drawn_draw, h.quiet.2.2⟩
  obtain ⟨⟨looks, ready⟩, hrt⟩ := Option.isSome_iff_exists.mp hr
  obtain rfl : ready = [] := h.ready _ hrt
  have hcall : ∀ t ∈ q.tasks, t.stage = .calling := fun t ht => (h.stages t ht).resolve_right (by simp)
  obtain ⟨busy, hb, hl, -⟩ := hh.yields hrt (hq.sound h.sound) (hh.quiet hquiet) rfl rfl fun t ht => ⟨ht, hcall t⟩
  rw [submit_of_room job hr hp]
  exact ⟨hq, busy, hb, hl⟩

theorem submit (h : Paused [] q) (job : Job) :
    Reaches q (q.decidedBy job) (q.submit job).2 ∧ ∃ busy, Paused busy (q.submit job).2 ∧ busy.length ≤ 1 := by
  cases hr : q.isRunning with
  | false =>
    simp only [decidedBy, Queue.submit, hr, Bool.not_false, if_true]
    exact ⟨.refl q, [], h, Nat.zero_le _⟩
  | true =>
    obtain hp | hp := Nat.lt_or_ge q.pending.length q.room
    · have ha : q.decidedBy job = [.admitted ⟨q.nextId, job⟩] := by
        rw [decidedBy, submit_of_room job hr hp]
        rfl
      rw [ha]
      exact h.accepted hr hp job
    · have ha : q.decidedBy job = [.refused q.nextId q.pending.length q.room] := by
        rw [decidedBy, submit_of_full job hr hp]
        rfl
      rw [ha]
      exact ⟨(h.refused hr hp job).1, [], (h.refused hr hp job).2, Nat.zero_le _⟩

theorem endCall (h : Paused [] q) (id : Nat) (o : Outcome) :
    Reaches q [] (q.endCall id o) ∧ ∃ busy, Paused busy (q.endCall id o) ∧ busy.length ≤ 1 := by
  unfold Queue.endCall
  split
  · next hs =>
    have hq : Reaches q [] (q.finish id o) :=
      .step (e := .act (.finish id o)) (by simp [serial, attended]) (by simp) (by simp [step?, act?, hs])
    have hr : q.isRunning = true := by
      obtain ⟨t, ht, -⟩ := exists_task_of_stage? hs
      cases hr : q.isRunning with
      | true => rfl
      | false => simp [h.stopped hr] at ht
    obtain ⟨⟨looks, ready⟩, hrt⟩ := Option.isSome_iff_exists.mp hr
    obtain rfl : ready = [] := h.ready _ hrt
    have he : (q.finish id o).enqueue id .outside =
        { q.finish id o with runtime := some ⟨looks, [⟨id, .outside⟩]⟩ } := by
      simp [enqueue, finish, setStage, hrt]
    rw [he]
    have hq' := hq.snoc (.schedule (q := q.finish id o) hr ⟨looks, [⟨id, .outside⟩]⟩)
    refine ⟨hq', [⟨id, .outside⟩], ⟨hq'.sound h.sound, h.quiet, ?_, ?_, by simp [isRunning]⟩, Nat.le_refl _⟩
    · intro x hx
      cases hx
      rfl
    · intro t ht
      obtain ⟨rfl, hst⟩ | ⟨-, ht⟩ := of_mem_setStage ht
      · exact .inr ⟨⟨_, List.mem_singleton_self _, rfl⟩, .inr ⟨o, hst⟩⟩
      · exact .inl ((h.stages t ht).resolve_right (by simp))
  · exact ⟨.refl q, [], h, Nat.zero_le _⟩

theorem dropTicket {busy : List Ready} (h : Paused busy q) (id : Nat) :
    Reaches q [] (q.dropTicket id) ∧ Paused busy (q.dropTicket id) := by
  have hq : Reaches q [] (q.dropTicket id) :=
    .step (e := .act (.dropTicket id)) (by simp [serial, attended]) (by simp) rfl
  exact ⟨hq, hq.sound h.sound, h.quiet, h.ready, h.stages, h.stopped⟩

theorem poll {busy : List Ready} (h : Paused busy q) (id : Nat) :
    Reaches q [] (q.poll id).2 ∧ Paused busy (q.poll id).2 := by
  have hq : Reaches q [] (q.poll id).2 := .step (e := .poll id) (by simp [serial, attended]) (by simp) rfl
  refine ⟨hq, ?_⟩
  cases hr : (q.ticket? id).bind TicketState.response? with
  | none => simpa only [Queue.poll, hr] using h
  | some r => simpa only [Queue.poll, hr] using (h.dropTicket id).2

end Paused

/-- The runtime is being taken away: each task waits for its turn or for its call, and there is no turn any more. -/
structure Unwinding (q : Queue) : Prop where
  sound : Sound q
  quiet : Quiet q
  running : q.isRunning = true
  stages : ∀ t ∈ q.tasks, t.stage.isIdle = true

namespace Unwinding

variable {t : Task} {rest : List Task}

theorem handed (h : Unwinding q) (ht : t ∈ q.tasks) :
    Reaches q [] (((q.discard t.id).vacate t.id).launch (.release t.id)) ∧
      ∃ u, Handed (.release t.id) ((q.abandon t.id u).depart t.id)
        (((q.discard t.id).vacate t.id).launch (.release t.id)) := by
  have hi := h.stages t ht
  have hf := h.sound.distinct.task?_eq_some ht
  obtain ⟨u, hu, he⟩ := discard_eq hf hi
  have hleaving : (q.abandon t.id u).task? t.id = some { t with stage := u } := task?_setStage hf
  have hrun : (q.abandon t.id u).isRunning = true := (isRunning_abandon t.id u q).trans h.running
  have hdiscard : Reaches q [] (q.abandon t.id u) :=
    he ▸ .step (e := .discard t.id) (by simp [serial, attended]) (by simp) (by simp [step?, isIdle, stage?, hf, hi])
  have hsound := hdiscard.sound h.sound
  have hmove : Move (q.abandon t.id u) [.freed t.id] ((q.abandon t.id u).depart t.id) :=
    .depart (t := { t with stage := u }) (task?_eq_some hleaving).1 hu.isLeaving
  have hc : ((q.abandon t.id u).depart t.id).claimedBy (.release t.id) = [] := by
    simp only [claimedBy, List.map_eq_nil_iff, List.filter_eq_nil_iff, decide_eq_true_iff, tasks_depart_abandon]
    intro v hv hl
    have hvi := h.stages v (List.mem_filter.mp hv).1
    simp [hl, Stage.isIdle] at hvi
  have hvacate : Reaches (q.abandon t.id u) [] ((q.abandon t.id u).vacate t.id) :=
    .step (e := .act (.vacate t.id)) (by simp [serial, attended]) (by simp)
      (by
        have hfree : (q.abandon t.id u).isFree = true := h.quiet.1
        have hl : (q.abandon t.id u).isLeaving t.id = true := isLeaving_iff.mpr ⟨_, hleaving, hu.isLeaving⟩
        simp [step?, act?, hrun, hfree, hl])
  obtain ⟨hh, hl⟩ := handed_launch (hmove.distinct hsound.distinct) hrun hc hsound.one_free
  rw [he]
  exact ⟨(hdiscard.snoc hvacate).snoc hl, u, hh⟩

theorem discard (h : Unwinding q) (ht : t ∈ q.tasks) :
    Reaches q [] (((q.discard t.id).vacate t.id).launch (.release t.id)) ∧
      Unwinding (((q.discard t.id).vacate t.id).launch (.release t.id)) ∧
      2 * (((q.discard t.id).vacate t.id).launch (.release t.id)).pending.length +
        (((q.discard t.id).vacate t.id).launch (.release t.id)).tasks.length < 2 * q.pending.length + q.tasks.length := by
  obtain ⟨hq, u, hh⟩ := h.handed ht
  have hs := hq.sound h.sound
  have hr : ((q.abandon t.id u).depart t.id).isRunning = true := (isRunning_abandon t.id u q).trans h.running
  have htasks := tasks_depart_abandon q t.id u
  have hlen : ((q.abandon t.id u).depart t.id).tasks.length < q.tasks.length := by
    rw [htasks]
    exact List.length_filter_lt_length_iff_exists.mpr ⟨t, ht, by simp⟩
  have hst : ∀ v ∈ ((q.abandon t.id u).depart t.id).tasks, v.stage.isIdle = true := by
    rw [htasks]
    exact fun v hv => h.stages v (List.mem_filter.mp hv).1
  generalize ((q.discard t.id).vacate t.id).launch (.release t.id) = r at hq hh hs
  refine ⟨hq, ?_⟩
  cases hh with
  | none measures => exact ⟨⟨hs, h.quiet, hr, hst⟩, Nat.add_lt_add_left hlen _⟩
  | next a rest measures hp =>
    refine ⟨⟨hs, h.quiet, ?_, fun v hv => ?_⟩, ?_⟩
    · simpa [isRunning, dispatch] using hr
    · obtain hv | hv := List.mem_append.mp hv
      · exact hst v hv
      · cases List.mem_singleton.mp hv
        rfl
    · change q.pending = a :: rest at hp
      simp only [dispatch, List.length_append, hp, List.length_cons, List.length_nil]
      omega

theorem discardAll (fuel : Nat) (h : Unwinding q) (hf : 2 * q.pending.length + q.tasks.length ≤ fuel) :
    Reaches q [] (Queue.discardAll fuel q) ∧ Unwinding (Queue.discardAll fuel q) ∧
      (Queue.discardAll fuel q).tasks = [] := by
  -- A waiting job counts twice: it becomes a task before it goes.
  induction fuel generalizing q with
  | zero =>
    have hn : q.tasks.length = 0 := by omega
    exact ⟨.refl q, h, List.eq_nil_of_length_eq_zero hn⟩
  | succ fuel ih =>
    cases ht : q.tasks with
    | nil =>
      simp only [Queue.discardAll, ht]
      exact ⟨.refl q, h, trivial⟩
    | cons t rest =>
      obtain ⟨hq, hu, hl⟩ := h.discard (t := t) (by simp [ht])
      obtain ⟨hr, hu, hn⟩ := ih hu (by omega)
      simp only [Queue.discardAll, ht]
      exact ⟨hq.snoc hr, hu, hn⟩

end Unwinding

namespace Paused

theorem stop (h : Paused [] q) : Reaches q [] q.stop ∧ Paused [] q.stop ∧ q.stop.isRunning = false := by
  cases hr : q.isRunning with
  | false =>
    simp only [Queue.stop, hr]
    exact ⟨.refl q, h, hr⟩
  | true =>
    have hu : Unwinding q := by
      refine ⟨h.sound, h.quiet, hr, fun t ht => ?_⟩
      obtain hc | ⟨hb, -⟩ := h.stages t ht
      · rw [hc]
        rfl
      · simp at hb
    obtain ⟨hq, hu, ht⟩ := hu.discardAll _ (Nat.le_refl _)
    simp only [Queue.stop, hr, if_true]
    generalize Queue.discardAll _ q = p at hq hu ht
    have hstep : Reaches p [] { p with runtime := none } :=
      .step (e := .stop) (by simp [serial, attended]) (by simp) (by simp [step?, hu.running, ht, hu.quiet.2.1])
    have hs := hq.snoc hstep
    exact ⟨hs, ⟨hs.sound h.sound, hu.quiet, by simp, by simp [ht], fun _ => ht⟩, rfl⟩

theorem restart (h : Paused [] q) : Reaches q [] q.restart ∧ Paused [] q.restart := by
  obtain ⟨hq, hp, hr⟩ := h.stop
  have hstep : Reaches q.stop [] q.restart :=
    .step (e := .restart) (by simp [serial, attended]) (by simp) (by simp [step?, hr, Queue.restart])
  have hs := hq.snoc hstep
  have ht := hp.stopped hr
  exact ⟨hs, hs.sound h.sound, hp.quiet, by simp [Queue.restart], by simp [Queue.restart, ht],
    fun _ => ht⟩

end Paused

/-- One thing that is done to a queue while nothing else goes on. -/
inductive Operation where
  | submit (job : Job)
  | submitOutside (job : Job)
  | finish (id : Nat) (o : Outcome)
  | poll (id : Nat)
  | dropTicket (id : Nat)
  | stop
  | restart
  deriving DecidableEq, Repr

def perform (q : Queue) : Operation → Queue
  | .submit job => (q.submit job).2
  | .submitOutside job => q.outside fun q => (q.submit job).2
  | .finish id o => q.endCall id o
  | .poll id => (q.poll id).2
  | .dropTicket id => q.dropTicket id
  | .stop => q.stop
  | .restart => q.restart

/-- An operation, and everything that it sets off. Calls that start on the way end at once where there is an automatic
answer. -/
def operate (auto : Option Outcome) (x : Operation) (q : Queue) : Queue := (q.perform x).settle auto

/-- Operations one after the other, each with the automatic answer at that time. -/
def operateAll (xs : List (Option Outcome × Operation)) (q : Queue) : Queue :=
  xs.foldl (fun q x => q.operate x.1 x.2) q

def admissionsBy (q : Queue) : Operation → List Admitted
  | .submit job => q.admittedBy job
  | _ => []

def decisionsBy (q : Queue) : Operation → List Sign
  | .submit job => q.decidedBy job
  | _ => []

theorem admissionsIn_decisionsBy (q : Queue) (x : Operation) : admissionsIn (q.decisionsBy x) = q.admissionsBy x := by
  cases x with
  | submit job =>
    simp only [decisionsBy, decidedBy, admissionsIn_decisionsIn, admissionsBy, admittedBy]
    split
    · next id h =>
      rw [h]
      rfl
    · next e h =>
      rw [h]
      cases e <;> rfl
  | _ => rfl

/-- The states that come about by operations one after the other, with the jobs that were admitted. -/
inductive Operated (limits : Config.Queue) : List Admitted → Queue → Prop where
  | new : Operated limits [] (new limits)
  | operate {admitted : List Admitted} {q : Queue} (auto : Option Outcome) (x : Operation) :
      Operated limits admitted q → Operated limits (admitted ++ q.admissionsBy x) (q.operate auto x)

theorem Paused.perform (h : Paused [] q) (x : Operation) :
    Reaches q (q.decisionsBy x) (q.perform x) ∧ ∃ busy, Paused busy (q.perform x) ∧ busy.length ≤ 1 := by
  cases x with
  | submit job => exact h.submit job
  | submitOutside job => exact ⟨.refl q, [], h, Nat.zero_le _⟩
  | finish id o => exact h.endCall id o
  | poll id => exact ⟨(h.poll id).1, [], (h.poll id).2, Nat.zero_le _⟩
  | dropTicket id => exact ⟨(h.dropTicket id).1, [], (h.dropTicket id).2, Nat.zero_le _⟩
  | stop => exact ⟨h.stop.1, [], h.stop.2.1, Nat.zero_le _⟩
  | restart => exact ⟨h.restart.1, [], h.restart.2, Nat.zero_le _⟩

theorem Paused.operate (h : Paused [] q) (auto : Option Outcome) (x : Operation) :
    Reaches q (q.decisionsBy x) (q.operate auto x) ∧ Paused [] (q.operate auto x) := by
  obtain ⟨hq, busy, hb, hl⟩ := h.perform x
  obtain ⟨hr, hp⟩ := hb.settle auto hl
  exact ⟨hq.snoc hr, hp⟩

theorem Paused.new (limits : Config.Queue) : Paused [] (new limits) where
  sound := .new limits
  quiet := ⟨rfl, rfl, rfl⟩
  ready x hx := by
    cases hx
    rfl
  stages := nofun
  stopped := nofun

theorem Operated.reaches {limits : Config.Queue} {admitted : List Admitted} (h : Operated limits admitted q) :
    (∃ log, Run serial (Queue.new limits) log q ∧ admissionsIn log = admitted) ∧ Paused [] q := by
  induction h with
  | new => exact ⟨⟨[], .refl, rfl⟩, .new limits⟩
  | @operate admitted q auto x _ ih =>
    obtain ⟨⟨log, hrun, rfl⟩, hpaused⟩ := ih
    obtain ⟨⟨more, hmore, hdecided⟩, hp⟩ := hpaused.operate auto x
    refine ⟨⟨log ++ more, hrun.trans hmore, ?_⟩, hp⟩
    rw [admissionsIn_append, ← admissionsIn_decisionsIn more, hdecided, admissionsIn_decisionsBy]

def decisionsOf : List (Option Outcome × Operation) → Queue → List Sign
  | [], _ => []
  | x :: xs, q => q.decisionsBy x.2 ++ decisionsOf xs (q.operate x.1 x.2)

theorem Paused.operateAll (h : Paused [] q) (xs : List (Option Outcome × Operation)) :
    Reaches q (decisionsOf xs q) (q.operateAll xs) ∧ Paused [] (q.operateAll xs) := by
  induction xs generalizing q with
  | nil => exact ⟨.refl q, h⟩
  | cons x xs ih =>
    obtain ⟨hq, hp⟩ := h.operate x.1 x.2
    obtain ⟨hr, hp⟩ := ih hp
    exact ⟨hq.trans hr, hp⟩

end Turnstile.Queue
