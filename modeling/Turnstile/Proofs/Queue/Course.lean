import Turnstile.Proofs.Queue.Shutdown

namespace Turnstile.Queue

variable {q r : Queue} {t : Task} {before after us vs : List Task} {log : List Sign} {id : Nat} {launcher : Launcher}
  {outcome : Nat → Outcome}

/-- Looking ahead, it makes no difference who still has to start a task, and that a job has a slot but no turn yet. -/
def Stage.outlook : Stage → Stage
  | claimed _ => spawned
  | s => s

@[simp]
theorem Stage.outcome?_outlook (s : Stage) : s.outlook.outcome? = s.outcome? := by cases s <;> rfl

@[simp]
theorem Stage.isUnstarted_outlook (s : Stage) : s.outlook.isUnstarted = s.isUnstarted := by cases s <;> rfl

/-- The jobs that are not done with, each with how far it has come. One that waits is as far as one that has a slot. -/
def course (q : Queue) : List Task :=
  q.tasks.map (fun t => ⟨t.admitted, t.stage.outlook⟩) ++ q.pending.map fun a => ⟨a, .spawned⟩

theorem course_claim (launcher : Launcher) (q : Queue) : (q.claim launcher).course = q.course := by
  have hc (as : List Admitted) : (as.map fun a => (⟨a, .claimed launcher⟩ : Task)).map
      (fun t => (⟨t.admitted, t.stage.outlook⟩ : Task)) = as.map fun a => ⟨a, .spawned⟩ := List.map_map
  unfold claim
  split
  · simp only [course, List.map_append, hc, List.append_assoc]
    rw [← List.map_append, List.take_append_drop]
  · rfl

theorem exists_course (h : Stands q t before after) : ∃ us vs, (∀ u ∈ us, u.id ≠ t.id) ∧
    q.course = us ++ ⟨t.admitted, t.stage.outlook⟩ :: vs ∧
    (∀ s, (q.setStage t.id s).course = us ++ ⟨t.admitted, s.outlook⟩ :: vs) ∧
      (q.removeTask t.id).course = us ++ vs := by
  refine ⟨before.map fun t => ⟨t.admitted, t.stage.outlook⟩,
    after.map (fun t => ⟨t.admitted, t.stage.outlook⟩) ++ q.pending.map fun a => ⟨a, .spawned⟩, ?_, ?_, ?_, ?_⟩
  · intro u hu
    obtain ⟨v, hv, rfl⟩ := List.mem_map.mp hu
    exact h.ne v (List.mem_append_left _ hv)
  · simp [course, h.tasks]
  · intro s
    have hp : (q.setStage t.id s).pending = q.pending := rfl
    simp [course, h.setStage, hp]
  · have hp : (q.removeTask t.id).pending = q.pending := rfl
    simp [course, h.removeTask, hp]

theorem countP_course (h : Stands q t before after) (p : Task → Bool) (u : Stage) :
    (q.setStage t.id u).course.countP p + (p ⟨t.admitted, t.stage.outlook⟩).toNat =
      q.course.countP p + (p ⟨t.admitted, u.outlook⟩).toNat := by
  obtain ⟨us, vs, -, hq, hs, -⟩ := exists_course h
  simp only [hq, hs u, List.countP_append, List.countP_cons]
  cases p ⟨t.admitted, t.stage.outlook⟩ <;> cases p ⟨t.admitted, u.outlook⟩ <;> simp <;> omega

def answerAmong (outcome : Nat → Outcome) (tasks : List Task) (id : Nat) : Http.Response :=
  (((tasks.find? (·.id == id)).bind (·.stage.outcome?)).getD (outcome id)).answer

theorem answerAmong_cons_of_ne (hid : t.id ≠ id) (us vs : List Task) :
    answerAmong outcome (us ++ t :: vs) id = answerAmong outcome (us ++ vs) id := by
  simp [answerAmong, List.find?_append, hid]

theorem answerAmong_cons_self (hu : ∀ u ∈ us, u.id ≠ t.id) (vs : List Task) :
    answerAmong outcome (us ++ t :: vs) t.id = (t.stage.outcome?.getD (outcome t.id)).answer := by
  have hn : us.find? (·.id == t.id) = none := by simpa using hu
  simp [answerAmong, List.find?_append, hn]

theorem answerAmong_setStage (h : Stands q t before after) {u : Stage}
    (ho : u.outcome?.getD (outcome t.id) = t.stage.outcome?.getD (outcome t.id)) (id : Nat) :
    answerAmong outcome (q.setStage t.id u).course id = answerAmong outcome q.course id := by
  obtain ⟨us, vs, hne, hq, hs, -⟩ := exists_course h
  rw [hs, hq]
  by_cases he : id = t.id
  · have hl (v : Stage) : answerAmong outcome (us ++ ⟨t.admitted, v⟩ :: vs) t.id =
        (v.outcome?.getD (outcome t.id)).answer := answerAmong_cons_self (t := ⟨t.admitted, v⟩) hne vs
    rw [he, hl, hl, Stage.outcome?_outlook, Stage.outcome?_outlook, ho]
  · have hl (v : Stage) : answerAmong outcome (us ++ ⟨t.admitted, v⟩ :: vs) id = answerAmong outcome (us ++ vs) id :=
      answerAmong_cons_of_ne (t := ⟨t.admitted, v⟩) (Ne.symm he) us vs
    rw [hl, hl]

def Ticket.awaiting (k : Ticket) (answer : Http.Response) : Ticket :=
  if k.state = .waiting then { k with state := .answered answer } else k

@[simp]
theorem Ticket.id_awaiting (k : Ticket) (answer : Http.Response) : (k.awaiting answer).id = k.id := by
  unfold awaiting
  split <;> rfl

def Stage.willEnd : Stage → Bool
  | claimed _ | spawned | calling | ended _ => true
  | _ => false

def Stage.willFail (o : Outcome) : Stage → Bool
  | claimed _ | spawned | calling => o.isFailure
  | ended p | counted p => p.isFailure
  | _ => false

/-- A queue without what the executor and an observer keep for themselves, and without the mark of the most calls. -/
def bare (q : Queue) : Queue := { q with runtime := none, reading := .none, peak := 0 }

/-- What a queue will have come to when every call has ended the way it is bound to, apart from what `bare` leaves
out. -/
def drained (outcome : Nat → Outcome) (q : Queue) : Queue :=
  { q.bare with
    pending := []
    inFlight := 0
    totals := { q.totals with
      completed := q.totals.completed + q.course.countP (·.stage.willEnd)
      failed := q.totals.failed + q.course.countP fun t => t.stage.willFail (outcome t.id) }
    tasks := []
    tickets := q.tickets.map fun k => k.awaiting (answerAmong outcome q.course k.id)
    calls := q.calls ++ q.unstarted ++ q.pending
    measures := { q.measures with
      gauges := if q.pending.length + q.inFlight = 0 then q.measures.gauges else some (0, 0)
      failed := q.measures.failed + q.course.countP fun t => t.stage.willFail (outcome t.id)
      waits := q.measures.waits + (q.unstarted ++ q.pending).length } }

theorem drained_eq_self (hk : Ticketed log q) (hi : q.inFlight = 0) (hl : q.live = []) (outcome : Nat → Outcome) :
    q.drained outcome = q.bare := by
  obtain ⟨ht, hp⟩ := List.append_eq_nil_iff.mp hl
  rw [List.map_eq_nil_iff] at ht
  have hw : ∀ k ∈ q.tickets, k.state ≠ .waiting := by
    intro k hkq hs
    have hshown := hk.shown k hkq
    rw [hs] at hshown
    cases hshown with
    | waiting ha =>
      have hlive := ha.live
      simp [hl] at hlive
  have htickets : q.tickets.map (fun k => k.awaiting (answerAmong outcome q.course k.id)) = q.tickets :=
    (List.map_congr_left fun k hkq => if_neg (hw k hkq)).trans (List.map_id _)
  rw [drained, htickets]
  simp [bare, course, unstarted, unstartedAmong, ht, hp, hi]

theorem drained_of_setStage {u : Stage} (failures : Nat) (h : Stands q t before after)
    (hr : r = { q with
      runtime := r.runtime, inFlight := r.inFlight, totals := r.totals, tasks := (q.setStage t.id u).tasks
      calls := r.calls, reading := r.reading, measures := r.measures, peak := r.peak })
    (ht : r.totals = { q.totals with completed := r.totals.completed, failed := r.totals.failed })
    (hm : r.measures = { q.measures with failed := r.measures.failed, waits := r.measures.waits })
    (hc : r.totals.completed + u.outlook.willEnd.toNat = q.totals.completed + t.stage.outlook.willEnd.toNat)
    (hf : r.totals.failed = q.totals.failed + failures ∧ r.measures.failed = q.measures.failed + failures)
    (hl : (u.outlook.willFail (outcome t.id)).toNat + failures = (t.stage.outlook.willFail (outcome t.id)).toNat)
    (hw : r.measures.waits + r.unstarted.length = q.measures.waits + q.unstarted.length)
    (ho : u.outcome?.getD (outcome t.id) = t.stage.outcome?.getD (outcome t.id)) :
    r.drained outcome = { q.drained outcome with
      calls := (r.drained outcome).calls
      measures := { (q.drained outcome).measures with gauges := (r.drained outcome).measures.gauges } } := by
  have hcourse : r.course = (q.setStage t.id u).course := by rw [hr]; rfl
  have hp : r.pending = q.pending := by rw [hr]
  have hcompleted := countP_course h (fun t => t.stage.willEnd) u
  have hfailed := countP_course h (fun t => t.stage.willFail (outcome t.id)) u
  have hid (v : Stage) : (⟨t.admitted, v⟩ : Task).id = t.id := rfl
  have hanswer := answerAmong_setStage h ho
  simp only [hid, ← hcourse] at hcompleted hfailed hanswer
  have hlimits : r.limits = q.limits := by rw [hr]
  have hnext : r.nextId = q.nextId := by rw [hr]
  have hdrawn : r.drawn = q.drawn := by rw [hr]
  have hrefusing : r.refusing = q.refusing := by rw [hr]
  have htickets : r.tickets = q.tickets := by rw [hr]
  obtain ⟨hf, hmf⟩ := hf
  simp only [drained, bare, hlimits, hnext, hdrawn, hrefusing, htickets, hanswer, List.length_append, hp,
    Queue.mk.injEq, Totals.mk.injEq, Measures.mk.injEq, true_and, and_true]
  exact ⟨⟨by rw [ht], by rw [ht], by omega, by omega⟩, by rw [hm], by omega, by omega⟩

theorem unstarted_claim (launcher : Launcher) (q : Queue) :
    (q.claim launcher).unstarted ++ (q.claim launcher).pending = q.unstarted ++ q.pending := by
  have hu (as : List Admitted) : unstartedAmong (as.map fun a => ⟨a, .claimed launcher⟩) = as := by
    simp [unstartedAmong, List.filter_map, Function.comp_def, Stage.isUnstarted]
  unfold claim
  split
  · simp only [unstarted, unstartedAmong_append, hu, List.append_assoc, List.take_append_drop]
  · rfl

theorem exists_claim_eq (hr : q.isRunning = true) (launcher : Launcher) : ∃ pending n tasks,
    q.claim launcher = { q with
      pending, inFlight := n, tasks, measures := { q.measures with gauges := some (pending.length, n) } } :=
  ⟨_, _, _, by rw [claim, if_pos hr, List.length_drop]⟩

theorem drained_claim (outcome : Nat → Outcome) (hr : q.isRunning = true) (launcher : Launcher) :
    (q.claim launcher).drained outcome =
      { q.drained outcome with measures := { (q.drained outcome).measures with gauges := some (0, 0) } } := by
  have hcourse := course_claim launcher q
  have hunstarted := unstarted_claim launcher q
  obtain ⟨pending, n, tasks, hq⟩ := exists_claim_eq hr launcher
  rw [hq] at hcourse hunstarted ⊢
  simp only [drained, bare, hcourse, hunstarted, List.append_assoc, Queue.mk.injEq, Measures.mk.injEq, true_and,
    and_true]
  split
  · next hz => simp only [Nat.add_eq_zero_iff.mp hz]
  · rfl

theorem drained_reply {o : Outcome} (h : Stands q t before after) (hs : t.stage = .released o) :
    (q.reply t.id o).drained outcome = q.drained outcome := by
  obtain ⟨us, vs, hne, hq, -, hrem⟩ := exists_course h
  have hcourse : (q.reply t.id o).course = us ++ vs := hrem
  have hunstarted : (q.reply t.id o).unstarted = q.unstarted := by
    change (q.removeTask t.id).unstarted = q.unstarted
    simp only [unstarted, h.removeTask, h.tasks, unstartedAmong_append, unstartedAmong_cons, hs]
    rfl
  have hself : answerAmong outcome q.course t.id = o.answer := by
    rw [hq, hs]
    exact answerAmong_cons_self (t := ⟨t.admitted, .released o⟩) hne vs
  have hother {id : Nat} (hid : id ≠ t.id) : answerAmong outcome (us ++ vs) id = answerAmong outcome q.course id := by
    rw [hq]
    exact (answerAmong_cons_of_ne (t := ⟨t.admitted, t.stage.outlook⟩) (Ne.symm hid) us vs).symm
  have htickets : (q.reply t.id o).tickets.map
        (fun k => k.awaiting (answerAmong outcome (q.reply t.id o).course k.id)) =
      q.tickets.map fun k => k.awaiting (answerAmong outcome q.course k.id) := by
    rw [hcourse]
    simp only [reply, resolve, removeTask, List.map_map]
    apply List.map_congr_left
    intro k _
    by_cases hw : k.state = .waiting
    · by_cases hid : k.id = t.id
      · simp [Ticket.awaiting, hw, hid, hself]
      · simp [Ticket.awaiting, hw, hid, hother hid]
    · simp [Ticket.awaiting, hw]
  have hcount (p : Task → Bool) (hp : p ⟨t.admitted, .released o⟩ = false) :
      (q.reply t.id o).course.countP p = q.course.countP p := by
    rw [hcourse, hq, hs]
    simp [Stage.outlook, hp]
  rw [drained, htickets, hcount _ rfl, hcount _ rfl, hunstarted]
  rfl

theorem answerAmong_removeTask (hd : Distinct q) (ht : t ∈ q.tasks) :
    answerAmong outcome (q.removeTask t.id).course t.id = (outcome t.id).answer := by
  have hnone : (q.removeTask t.id).course.find? (·.id == t.id) = none := by
    rw [List.find?_eq_none, course]
    refine List.forall_mem_append.mpr ⟨List.forall_mem_map.mpr fun u hu => ?_, List.forall_mem_map.mpr fun a ha => ?_⟩
    · have hne : u.id ≠ t.id := of_decide_eq_true (List.mem_filter.mp hu).2
      simpa [Task.id] using hne
    · have hne : a.id ≠ t.id := hd.pending_ne ht ha
      simpa [Task.id] using hne
  rw [answerAmong, hnone]
  rfl

theorem drained_depart (hd : Distinct q) (h : Stands q t before after) (hl : t.stage.isLeaving = true) :
    (q.depart t.id).drained outcome = { q.drained outcome with
      measures :=
        { (q.drained outcome).measures with gauges := ((q.depart t.id).drained outcome).measures.gauges } } := by
  have ht : t ∈ q.tasks := h.tasks ▸ List.mem_append_right _ List.mem_cons_self
  obtain ⟨us, vs, hne, hq, -, hrem⟩ := exists_course h
  have hcourse : (q.depart t.id).course = us ++ vs := hrem
  obtain ⟨hsame, hnone, hunstarted, hend, hfail⟩ : t.stage.outlook = t.stage ∧ t.stage.outcome? = none ∧
      t.stage.isUnstarted = false ∧ t.stage.willEnd = false ∧ t.stage.willFail (outcome t.id) = false := by
    cases hs : t.stage <;> simp_all [Stage.isLeaving, Stage.outlook, Stage.outcome?, Stage.isUnstarted, Stage.willEnd,
      Stage.willFail]
  have hcount (p : Task → Bool) (hp : p t = false) : (q.depart t.id).course.countP p = q.course.countP p := by
    have hself : (⟨t.admitted, t.stage⟩ : Task) = t := rfl
    simp [hcourse, hq, hsame, hself, hp]
  have hwaiting : (q.depart t.id).unstarted = q.unstarted := by
    change (q.removeTask t.id).unstarted = q.unstarted
    simp [unstarted, h.removeTask, h.tasks, unstartedAmong_append, unstartedAmong_cons, hunstarted]
  have hanswer (id : Nat) : answerAmong outcome (q.depart t.id).course id = answerAmong outcome q.course id := by
    by_cases hid : t.id = id
    · have hself : answerAmong outcome (us ++ ⟨t.admitted, t.stage.outlook⟩ :: vs) t.id =
          (t.stage.outlook.outcome?.getD (outcome t.id)).answer :=
        answerAmong_cons_self (t := ⟨t.admitted, t.stage.outlook⟩) hne vs
      rw [← hq, Stage.outcome?_outlook, hnone] at hself
      rw [← hid]
      exact (answerAmong_removeTask hd ht).trans hself.symm
    · rw [hcourse, hq]
      exact (answerAmong_cons_of_ne (t := ⟨t.admitted, t.stage.outlook⟩) hid us vs).symm
  have htickets : (q.depart t.id).tickets = q.tickets := rfl
  have hends := hcount (·.stage.willEnd) hend
  have hfails := hcount (fun t => t.stage.willFail (outcome t.id)) hfail
  simp only [drained, hends, hfails, hwaiting, hanswer, htickets]
  rfl

end Turnstile.Queue
