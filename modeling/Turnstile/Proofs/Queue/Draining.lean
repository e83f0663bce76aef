import Turnstile.Proofs.Queue.Course

namespace Turnstile.Queue

variable {q r s : Queue} {t : Task} {before after : List Task} {log more : List Sign} {id : Nat} {e : Event}
  {outcome : Nat → Outcome}

/-- What goes on while calls end the way they are bound to, and nothing else is done to the queue. -/
def Event.drains (outcome : Nat → Outcome) : Event → Bool
  | .act (.finish id o) => o = outcome id
  | .act (.start _) => true
  | .discard _ => false
  | e => e.unwinds

/-- A step of a queue that drains starts or ends a call, or is one of those that a turn takes without a call. -/
inductive Drains (outcome : Nat → Outcome) (q : Queue) : Event → Queue → Prop where
  | start {t : Task} : q.task? t.id = some t → t.stage = .spawned →
      Drains outcome q (.act (.start t.id)) ((q.dequeue t.id).startTask t)
  | finish {t : Task} : t ∈ q.tasks → t.stage = .calling →
      Drains outcome q (.act (.finish t.id (outcome t.id))) (q.finish t.id (outcome t.id))
  | unwind {e : Event} {r : Queue} : e.unwinds = true → (∀ id, e ≠ .discard id) → Unwinds q e r → Drains outcome q e r

theorem drains_of_step (he : e.drains outcome = true) (h : q.step? e = some r) : Drains outcome q e r := by
  unfold Event.drains at he
  split at he
  · next id o =>
    obtain ⟨⟨s, x⟩, ha, rfl⟩ := Option.map_eq_some_iff.mp h
    obtain rfl := of_decide_eq_true he
    cases acts_of_act? ha with
    | finish o ht hs => exact .finish ht hs
    | observe reading hs => cases hs
  · next id =>
    obtain ⟨⟨s, x⟩, ha, rfl⟩ := Option.map_eq_some_iff.mp h
    cases acts_of_act? ha with
    | start ht hs => exact .start ht hs
    | observe reading hs =>
      simp only [act?, Option.ite_none_right_eq_some, Bool.and_eq_true, decide_eq_true_eq] at ha
      obtain ⟨t, ht, -⟩ := stage?_eq_some_iff.mp ha.1.2
      simp [signs, callSigns, ht] at hs
  · cases he
  · next hd => exact .unwind he hd (unwinds_of_step he h)

theorem Drains.drained (h : Drains outcome q e r) (hd : Distinct q) (hb : Balanced q) (hr : q.isRunning = true) :
    r.drained outcome = { q.drained outcome with calls := (r.drained outcome).calls } := by
  -- A step that starts no call and fails none changes a stage, and counts an end where it is due.
  have hset {u : Stage} {r : Queue} {t : Task} (ht : t ∈ q.tasks)
      (hr : r = { q with
        runtime := r.runtime, inFlight := r.inFlight, totals := { q.totals with completed := r.totals.completed }
        tasks := (q.setStage t.id u).tasks })
      (hc : r.totals.completed + u.outlook.willEnd.toNat = q.totals.completed + t.stage.outlook.willEnd.toNat)
      (hl : u.outlook.willFail (outcome t.id) = t.stage.outlook.willFail (outcome t.id))
      (hu : t.stage.isUnstarted = u.isUnstarted)
      (ho : u.outcome?.getD (outcome t.id) = t.stage.outcome?.getD (outcome t.id)) :
      r.drained outcome = { q.drained outcome with
        calls := (r.drained outcome).calls
        measures := { (q.drained outcome).measures with gauges := (r.drained outcome).measures.gauges } } := by
    obtain ⟨before, after, hst⟩ := hd.stands ht
    have hw : r.unstarted = q.unstarted := by
      rw [hr]
      exact unstarted_setStage hst hu
    exact drained_of_setStage 0 hst (by rw [hr]) (by rw [hr]) (by rw [hr]) hc ⟨by rw [hr]; rfl, by rw [hr]; rfl⟩
      (congrArg Bool.toNat hl) (by rw [hw, hr]) ho
  cases h with
  | @start t ht hs =>
    obtain ⟨before, after, hst⟩ := hd.stands (task?_eq_some ht).1
    have hw : (q.setStage t.id .calling).unstarted.length + 1 = q.unstarted.length := by
      simp only [unstarted, hst.setStage, hst.tasks, unstartedAmong_append, unstartedAmong_cons, hs, List.length_append]
      simp [Stage.isUnstarted]
      omega
    exact drained_of_setStage 0 hst rfl rfl rfl (by rw [hs]; rfl) ⟨rfl, rfl⟩ (by rw [hs]; rfl)
      (by rw [← hw]; exact Nat.add_right_comm _ _ _) (by rw [hs]; rfl)
  | finish ht hs => exact hset ht rfl (by rw [hs]; rfl) (by rw [hs]; rfl) (by rw [hs]; rfl) (by rw [hs]; rfl)
  | unwind he hne hu =>
    cases hu with
    | discard => exact absurd rfl (hne _)
    | spawn ht hs => exact hset ht rfl (by rw [hs]; rfl) (by rw [hs]; rfl) (by rw [hs]; rfl) (by rw [hs]; rfl)
    | countEnd ht hs => exact hset ht rfl (by rw [hs]; rfl) (by rw [hs]; rfl) (by rw [hs]; rfl) (by rw [hs]; rfl)
    | @countFailure t o ht hs =>
      obtain ⟨before, after, hst⟩ := hd.stands ht
      have hu := unstarted_setStage hst (s := .recorded o) (by rw [hs]; rfl)
      rw [countFailure_eq]
      exact drained_of_setStage (if o.isFailure then 1 else 0) hst rfl rfl rfl (by rw [hs]; rfl) ⟨rfl, rfl⟩
        (by rw [hs]; cases ho : o.isFailure <;> simp [Stage.outlook, Stage.willFail, ho])
        (congrArg (q.measures.waits + List.length ·) hu) (by rw [hs]; rfl)
    | @vacate t ht hl =>
      obtain ⟨before, after, hst⟩ := hd.stands ht
      have hc := drained_claim outcome (q := q.depart t.id) hr (.release t.id)
      have hg : (q.drained outcome).measures.gauges = some (0, 0) := by
        have hpos := hb.inFlight_pos ht (holdsSlot_of_isLeaving hl)
        exact if_neg (by omega)
      rw [vacate, hc, drained_depart hd hst hl, ← hg]
    | @release t o ht hs =>
      have hf := hset (r := q.free t.id o) ht rfl (by rw [hs]; rfl) (by rw [hs]; rfl) (by rw [hs]; rfl)
        (by rw [hs]; rfl)
      have hc := drained_claim outcome (q := q.free t.id o) hr (.release t.id)
      have hg : (q.drained outcome).measures.gauges = some (0, 0) := by
        have hpos := hb.inFlight_pos ht (by rw [hs]; rfl)
        exact if_neg (by omega)
      rw [release, hc, hf, ← hg]
    | reply ht hs =>
      obtain ⟨before, after, hst⟩ := hd.stands ht
      rw [drained_reply hst hs]
    | load => rfl

theorem unstarted_start_perm (h : Stands q t before after) (ht : t.stage.isUnstarted = true) {u : Stage}
    (hu : u.isUnstarted = false) : q.unstarted.Perm (t.admitted :: (q.setStage t.id u).unstarted) := by
  simp only [unstarted, h.setStage, h.tasks, unstartedAmong_append, unstartedAmong_cons, ht, hu]
  exact List.perm_middle

/-- The calls that have started, and those that are to come, the jobs with slots first. -/
def lineup (q : Queue) : List Admitted := q.calls ++ q.unstarted ++ q.pending

theorem lineup_claim (launcher : Launcher) (q : Queue) : (q.claim launcher).lineup = q.lineup := by
  have hcalls : (q.claim launcher).calls = q.calls := by
    unfold claim
    split <;> rfl
  rw [lineup, lineup, hcalls, List.append_assoc, List.append_assoc, unstarted_claim]

theorem Drains.calls_of_ne (h : Drains outcome q e r) (hd : Distinct q) (he : ∀ id, e ≠ .act (.start id)) :
    (r.drained outcome).calls = (q.drained outcome).calls := by
  have hset {u : Stage} {t : Task} (ht : t ∈ q.tasks) (hu : t.stage.isUnstarted = u.isUnstarted) :
      q.calls ++ (q.setStage t.id u).unstarted ++ q.pending = (q.drained outcome).calls := by
    obtain ⟨before, after, hst⟩ := hd.stands ht
    rw [unstarted_setStage hst hu]
    rfl
  cases h with
  | start => exact absurd rfl (he _)
  | finish ht hs => exact hset ht (by rw [hs]; rfl)
  | unwind he hne hu =>
    cases hu with
    | discard => exact absurd rfl (hne _)
    | spawn ht hs => exact hset (u := .spawned) ht (by rw [hs]; rfl)
    | @countEnd t o ht hs => exact hset (u := .counted o) ht (by rw [hs]; rfl)
    | @countFailure t o ht hs =>
      rw [countFailure_eq]
      exact hset (u := .recorded o) ht (by rw [hs]; rfl)
    | @vacate t ht hl =>
      obtain ⟨before, after, hst⟩ := hd.stands ht
      have hunstarted := isUnstarted_of_isLeaving hl
      refine (lineup_claim (.release t.id) (q.depart t.id)).trans ?_
      change q.calls ++ (q.removeTask t.id).unstarted ++ q.pending = q.calls ++ q.unstarted ++ q.pending
      simp [unstarted, hst.removeTask, hst.tasks, unstartedAmong_append, unstartedAmong_cons, hunstarted]
    | @release t o ht hs =>
      rw [← hset (u := .released o) ht (by rw [hs]; rfl)]
      exact lineup_claim (.release t.id) (q.free t.id o)
    | @reply t o ht hs =>
      obtain ⟨before, after, hst⟩ := hd.stands ht
      rw [drained_reply hst hs]
    | load => rfl

theorem lineup_startTask_perm (h : Stands q t before after) (ht : t.stage.isUnstarted = true) :
    (q.startTask t).lineup.Perm q.lineup := by
  have hcalls : (q.calls ++ [t.admitted] ++ (q.setStage t.id .calling).unstarted).Perm (q.calls ++ q.unstarted) := by
    rw [List.append_assoc]
    exact (unstarted_start_perm h ht rfl).symm.append_left _
  exact hcalls.append_right _

theorem lineup_startTask (h : Stands q t before after) (hd : Distinct q) (ht : t.stage.isUnstarted = true)
    (hs : serial q (.act (.start t.id))) : (q.startTask t).lineup = q.lineup := by
  obtain ⟨a, ha, haid⟩ := Option.map_eq_some_iff.mp ((hs.2 t.id).2 rfl)
  obtain ⟨u, hu, rfl⟩ := List.mem_map.mp (List.mem_of_mem_head? ha)
  have hut : q.task? u.id = some u := hd.task?_eq_some (List.mem_filter.mp hu).1
  have htt : q.task? t.id = some t := hd.task?_eq_some (h.tasks ▸ List.mem_append_right _ List.mem_cons_self)
  rw [show u.id = t.id from haid, htt] at hut
  cases hut
  have hp := unstarted_start h ht ha (s := .calling) rfl
  change q.calls ++ [t.admitted] ++ (q.setStage t.id .calling).unstarted ++ q.pending = q.lineup
  rw [lineup, hp]
  simp

theorem Drains.calls_perm (h : Drains outcome q e r) (hd : Distinct q) :
    (r.drained outcome).calls.Perm (q.drained outcome).calls := by
  by_cases he : ∀ id, e ≠ .act (.start id)
  · rw [h.calls_of_ne hd he]
  · cases h with
    | @start t ht hs =>
      obtain ⟨before, after, hst⟩ := hd.stands (task?_eq_some ht).1
      exact lineup_startTask_perm (q := q) hst (by rw [hs]; rfl)
    | finish => exact absurd (fun _ => nofun) he
    | unwind hu => exact absurd (by rintro id rfl; cases hu) he

theorem Drains.calls_eq (h : Drains outcome q e r) (hd : Distinct q) (hs : serial q e) :
    (r.drained outcome).calls = (q.drained outcome).calls := by
  by_cases he : ∀ id, e ≠ .act (.start id)
  · exact h.calls_of_ne hd he
  · cases h with
    | @start t ht hst =>
      obtain ⟨before, after, hstands⟩ := hd.stands (task?_eq_some ht).1
      exact lineup_startTask (q := q) hstands hd (by rw [hst]; rfl) hs
    | finish => exact absurd (fun _ => nofun) he
    | unwind hu => exact absurd (by rintro id rfl; cases hu) he

theorem Stage.isOpen_outlook (s : Stage) : s.outlook.isOpen = s.isOpen := by cases s <;> rfl

/-- A bound for the steps that are left: those of the turns, and for each call still to come its end, and its start. -/
def labour (q : Queue) : Nat :=
  q.effort + 4 * q.course.countP (·.stage.isOpen) + q.course.countP (·.stage.isUnstarted)

theorem Unwinds.countP_course (h : Unwinds q e r) (he : ∀ id, e ≠ .discard id) (hd : Distinct q) {p : Stage → Bool}
    (hp : ∀ u : Stage, u.isOpen = false → p u = false) :
    r.course.countP (p ·.stage) = q.course.countP (p ·.stage) := by
  have hset {u : Stage} {t : Task} (ht : t ∈ q.tasks) (hu : p t.stage.outlook = p u.outlook) :
      (q.setStage t.id u).course.countP (p ·.stage) = q.course.countP (p ·.stage) := by
    obtain ⟨before, after, hst⟩ := hd.stands ht
    have hc := Queue.countP_course hst (p ·.stage) u
    simp only [hu] at hc
    exact Nat.add_right_cancel hc
  have hended {u v : Stage} (hu : u.isOpen = false) (hv : v.isOpen = false) : p u = p v :=
    (hp u hu).trans (hp v hv).symm
  have hgone {t : Task} (ht : t ∈ q.tasks) (ho : t.stage.isOpen = false) :
      (q.removeTask t.id).course.countP (p ·.stage) = q.course.countP (p ·.stage) := by
    obtain ⟨before, after, hst⟩ := hd.stands ht
    obtain ⟨us, vs, -, hq, -, hrem⟩ := exists_course hst
    have hone : p t.stage.outlook = false := hp _ (t.stage.isOpen_outlook.trans ho)
    rw [hrem, hq]
    simp [hone]
  cases h with
  | discard => exact absurd rfl (he _)
  | spawn ht hs => exact hset (u := .spawned) ht (by rw [hs]; rfl)
  | @countEnd t o ht hs => exact hset (u := .counted o) ht (by rw [hs]; exact hended rfl rfl)
  | @countFailure t o ht hs =>
    rw [countFailure_eq]
    exact hset (u := .recorded o) ht (by rw [hs]; exact hended rfl rfl)
  | @release t o ht hs =>
    rw [Queue.release, course_claim]
    exact hset (u := .released o) ht (by rw [hs]; exact hended rfl rfl)
  | @vacate t ht hl =>
    rw [Queue.vacate, course_claim]
    exact hgone ht (by cases hs : t.stage <;> simp_all [Stage.isLeaving, Stage.isOpen])
  | reply ht hs => exact hgone ht (by rw [hs]; rfl)
  | load => rfl

def Stage.labour (s : Stage) : Nat := s.effort + 4 * s.isOpen.toNat + s.isUnstarted.toNat

theorem labour_setStage (h : Stands q t before after) (u : Stage) :
    (q.setStage t.id u).labour + t.stage.labour = q.labour + u.labour := by
  have he := effort_setStage h u
  have hc := countP_course h (·.stage.isOpen) u
  have hs := countP_course h (·.stage.isUnstarted) u
  simp only [Stage.isOpen_outlook, Stage.isUnstarted_outlook] at hc hs
  unfold Queue.labour Stage.labour
  omega

theorem Drains.labour_lt (h : Drains outcome q e r) (hd : Distinct q) : r.labour < q.labour := by
  have hset {u : Stage} {t : Task} (ht : t ∈ q.tasks) (hu : u.labour < t.stage.labour) :
      (q.setStage t.id u).labour < q.labour := by
    obtain ⟨before, after, hst⟩ := hd.stands ht
    have hl := labour_setStage hst u
    omega
  cases h with
  | start ht hs => exact hset (u := .calling) (task?_eq_some ht).1 (by rw [hs]; decide)
  | finish ht hs => exact hset ht (by rw [hs]; exact Nat.le_succ 5)
  | unwind he hne hu =>
    have hended : ∀ u : Stage, u.isOpen = false → u.isUnstarted = false := fun u hu => by
      cases u <;> first | rfl | cases hu
    have hc := hu.countP_course hne hd (p := Stage.isOpen) fun u hu => hu
    have hs := hu.countP_course hne hd hended
    have hlt := hu.effort_lt hd
    unfold labour
    omega

theorem exists_drains (outcome : Nat → Outcome) (hd : Distinct q) (hr : q.isRunning = true)
    (hn : q.tasks ≠ [] ∨ q.isFree = false) : ∃ e r, e.drains outcome = true ∧ q.step? e = some r := by
  obtain ⟨e, r, he, hs⟩ := exists_unwinds hd hr hn
  by_cases hne : ∀ id, e ≠ .discard id
  · refine ⟨e, r, ?_, hs⟩
    cases e with
    | act a => cases a <;> first | rfl | cases he
    | discard id => exact absurd rfl (hne id)
    | _ => cases he
  · obtain ⟨id, rfl⟩ : ∃ id, e = .discard id := by simpa using hne
    simp only [step?, Option.ite_none_right_eq_some] at hs
    obtain ⟨t, ht, hi⟩ := isIdle_iff.mp hs.1
    have hst : q.stage? id = some t.stage := stage?_eq_some_iff.mpr ⟨t, ht, rfl⟩
    cases hstage : t.stage with
    | spawned => exact ⟨.act (.start id), (q.dequeue id).start id, rfl, by simp [step?, act?, hst, hstage, hr]⟩
    | calling =>
      exact ⟨.act (.finish id (outcome id)), q.finish id (outcome id), by simp [Event.drains],
        by simp [step?, act?, hst, hstage]⟩
    | _ => simp [hstage, Stage.isIdle] at hi

theorem Move.occupancy (h : Move q more r) (hb : Balanced q) :
    r.pending.length + r.inFlight + (departuresIn more).length =
      q.pending.length + q.inFlight + (admissionsIn more).length := by
  cases h with
  | unseen | noRuntime | draw | refuse | countRefusal | spawn | start | finish | countEnd | reply | abandon | dropTicket
  | take => rfl
  | @enter id job =>
    change (q.pending ++ [_]).length + q.inFlight + 0 = q.pending.length + q.inFlight + 1
    rw [List.length_append, List.length_singleton]
    omega
  | @grant a rest launcher hp =>
    rw [hp, List.length_cons]
    change rest.length + (q.inFlight + 1) + 0 = rest.length + 1 + q.inFlight + 0
    omega
  | countFailure =>
    rw [countFailure_eq]
    rfl
  | @free t o ht hs =>
    have hpos := hb.inFlight_pos ht (by rw [hs]; rfl)
    change q.pending.length + (q.inFlight - 1) + 1 = q.pending.length + q.inFlight
    omega
  | @depart t ht hl =>
    have hpos := hb.inFlight_pos ht (holdsSlot_of_isLeaving hl)
    change q.pending.length + (q.inFlight - 1) + 1 = q.pending.length + q.inFlight
    omega

theorem Moves.occupancy (h : Moves q more r) (hd : Distinct q) (hb : Balanced q) :
    r.pending.length + r.inFlight + (departuresIn more).length =
      q.pending.length + q.inFlight + (admissionsIn more).length := by
  induction h with
  | refl => rfl
  | move hm m ih =>
    have hstep := m.occupancy (hm.balanced hd hb)
    rw [departuresIn_append, admissionsIn_append, List.length_append, List.length_append]
    omega

def draining (outcome : Nat → Outcome) (_ : Queue) (e : Event) : Prop := e.drains outcome = true

theorem attended_of_draining (he : draining outcome q e) : attended q e := by
  rintro id rfl
  cases he

theorem Drains.isRunning (h : Drains outcome q e r) (hd : Distinct q) : r.isRunning = q.isRunning := by
  cases h with
  | start => exact isRunning_startTask _ _ _
  | finish => rfl
  | unwind he hne hu => exact (hu.wanes hd he).runtime

theorem admissionsIn_of_draining (he : draining outcome q e) : admissionsIn (q.signs e) = [] := by
  refine admissionsIn_signs fun id job => ?_
  rintro rfl
  cases he

/-- What can be said of a queue that has drained for a while. -/
structure Drain (outcome : Nat → Outcome) (q : Queue) (more : List Sign) (r : Queue) : Prop where
  sound : Sound r
  running : r.isRunning = true
  drained : r.drained outcome = { q.drained outcome with calls := (r.drained outcome).calls }
  calls : (r.drained outcome).calls.Perm (q.drained outcome).calls
  occupancy : r.pending.length + r.inFlight + (departuresIn more).length = q.pending.length + q.inFlight

theorem Drain.refl (hs : Sound q) (hr : q.isRunning = true) : Drain outcome q [] q where
  sound := hs
  running := hr
  drained := rfl
  calls := List.Perm.refl _
  occupancy := rfl

theorem Drain.step (h : Drain outcome q log r) (he : draining outcome r e) (hs : r.step? e = some s) :
    Drain outcome q (log ++ r.signs e) s := by
  have hd := h.sound.distinct
  have hstep := drains_of_step he hs
  have hdrained := hstep.drained hd h.sound.balanced h.running
  have hocc := (moves_of_step hs).occupancy hd h.sound.balanced
  have hocc₀ := h.occupancy
  constructor
  case sound => exact (Run.single (attended_of_draining he) hs).sound h.sound
  case running => exact (hstep.isRunning hd).trans h.running
  case drained => rw [hdrained, h.drained]
  case calls => exact (hstep.calls_perm hd).trans h.calls
  case occupancy =>
    rw [admissionsIn_of_draining he, List.length_nil] at hocc
    rw [departuresIn_append, List.length_append]
    omega

theorem Run.drain (h : Run (draining outcome) q more r) (hs : Sound q) (hr : q.isRunning = true) :
    Drain outcome q more r := by
  induction h with
  | refl => exact .refl hs hr
  | step _ he hstep ih => exact ih.step he hstep

theorem Run.drained_of_serial (h : Run (fun q e => draining outcome q e ∧ serial q e) q more r) (hs : Sound q)
    (hr : q.isRunning = true) : r.drained outcome = q.drained outcome := by
  induction h with
  | refl => rfl
  | @step log p r e h he hstep ih =>
    have hp := (h.mono fun _ _ he => he.1).drain hs hr
    have hd := drains_of_step he.1 hstep
    have hcalls := hd.calls_eq hp.sound.distinct he.2
    have hdrained := hd.drained hp.sound.distinct hp.sound.balanced hp.running
    rw [hcalls] at hdrained
    exact hdrained.trans ih

theorem length_le_of_play? {es : List Event} (hd : Distinct q) (he : ∀ e ∈ es, e.drains outcome = true)
    (h : q.play? es = some (more, r)) : es.length + r.labour ≤ q.labour := by
  induction es generalizing q more with
  | nil =>
    simp only [play?, Option.some.injEq, Prod.mk.injEq] at h
    obtain ⟨-, rfl⟩ := h
    exact Nat.le_of_eq (Nat.zero_add _)
  | cons e es ih =>
    simp only [play?, Option.bind_eq_bind, Option.bind_eq_some_iff, Option.some.injEq, Prod.mk.injEq] at h
    obtain ⟨p, hp, ⟨rest, u⟩, hs, -, rfl⟩ := h
    have hlt := (drains_of_step (he e (by simp)) hp).labour_lt hd
    have hle := ih ((moves_of_step hp).distinct hd) (fun e hm => he e (by simp [hm])) hs
    rw [List.length_cons]
    omega

end Turnstile.Queue
