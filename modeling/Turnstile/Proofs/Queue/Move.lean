import Turnstile.Proofs.Queue.Run

namespace Turnstile.Queue

variable {q r : Queue} {id : Nat} {s : Stage} {t : Task}

theorem task?_eq_some (h : q.task? id = some t) : t ∈ q.tasks ∧ t.id = id :=
  ⟨List.mem_of_find?_eq_some h, by simpa using List.find?_some h⟩

theorem stage?_eq_some_iff : q.stage? id = some s ↔ ∃ t, q.task? id = some t ∧ t.stage = s := by
  simp [stage?]

theorem exists_task_of_stage? (h : q.stage? id = some s) : ∃ t ∈ q.tasks, t.id = id ∧ t.stage = s := by
  obtain ⟨t, hf, ht⟩ := stage?_eq_some_iff.mp h
  exact ⟨t, (task?_eq_some hf).1, (task?_eq_some hf).2, ht⟩

theorem isIdle_iff : q.isIdle id = true ↔ ∃ t, q.task? id = some t ∧ t.stage.isIdle = true := by
  cases h : q.task? id <;> simp [isIdle, stage?, h]

theorem isLeaving_iff : q.isLeaving id = true ↔ ∃ t, q.task? id = some t ∧ t.stage.isLeaving = true := by
  cases h : q.task? id <;> simp [isLeaving, stage?, h]

def Stage.isOpen : Stage → Bool
  | claimed _ | spawned | calling => true
  | _ => false

/-- A task goes away from where it waits for its turn or for its call. Only a call crashes. -/
inductive Leaves : Stage → Loss → Stage → Prop where
  | uncalled : Leaves .spawned .discarded (.discarded false)
  | cut : Leaves .calling .discarded (.discarded true)
  | crashed : Leaves .calling .crashed .crashed

namespace Leaves

variable {how : Loss} {u : Stage} (h : Leaves s how u)
include h

theorem isLeaving : u.isLeaving = true := by cases h <;> rfl

theorem holdsSlot : s.holdsSlot = u.holdsSlot := by cases h <;> rfl

end Leaves

/-- Hands a slot to the first of those that wait. -/
def grant (launcher : Launcher) (a : Admitted) (rest : List Admitted) (q : Queue) : Queue :=
  { q with pending := rest, inFlight := q.inFlight + 1, tasks := q.tasks ++ [⟨a, .claimed launcher⟩] }

/-- The first turn of a task that has been found. -/
def startTask (t : Task) (q : Queue) : Queue :=
  { q.setStage t.id .calling with
    calls := q.calls ++ [t.admitted]
    measures := { q.measures with waits := q.measures.waits + 1 }
    peak := max q.peak (q.setStage t.id .calling).running.length }

theorem start_eq (h : q.task? id = some t) : q.start id = q.startTask t := by
  simp only [start, h, startTask, (task?_eq_some h).2]
  rfl

theorem countFailure_eq (id : Nat) (o : Outcome) (q : Queue) :
    q.countFailure id o = { q.setStage id (.recorded o) with
      totals := { q.totals with failed := q.totals.failed + if o.isFailure then 1 else 0 }
      measures := { q.measures with failed := q.measures.failed + if o.isFailure then 1 else 0 } } := by
  cases ho : o.isFailure <;> simp only [countFailure, ho] <;> rfl

/-- One effect. The steps of observers, of the executor and of the runtime itself leave no trace but in what they keep
for themselves (`unseen`). -/
inductive Move : Queue → List Sign → Queue → Prop where
  | unseen (q : Queue) (runtime : Option Runtime) (measures : Measures) (reading : Reading) :
      Move q [] { q with runtime, measures, reading }
  | noRuntime (q : Queue) : Move q [.noRuntime] q
  | draw (q : Queue) : Move q [] q.draw
  | enter {q : Queue} {id : Nat} {job : Job} : id ∈ q.drawn → q.pending.length < q.room →
      Move q [.admitted ⟨id, job⟩] (q.enter id job)
  | refuse {q : Queue} {id : Nat} : id ∈ q.drawn → q.room ≤ q.pending.length →
      Move q [.refused id q.pending.length q.room] (q.refuse id)
  | countRefusal {q : Queue} : 0 < q.refusing → Move q [] q.countRefusal
  | grant {q : Queue} {a : Admitted} {rest : List Admitted} (launcher : Launcher) :
      q.pending = a :: rest → q.inFlight < q.slots → Move q [] (q.grant launcher a rest)
  | spawn {q : Queue} {t : Task} {launcher : Launcher} : t ∈ q.tasks → t.stage = .claimed launcher →
      Move q [] (q.setStage t.id .spawned)
  | start {q : Queue} {t : Task} : t ∈ q.tasks → t.stage = .spawned → Move q [.called t.admitted] (q.startTask t)
  | finish {q : Queue} {t : Task} (o : Outcome) : t ∈ q.tasks → t.stage = .calling →
      Move q [.ended t.id o] (q.finish t.id o)
  | countEnd {q : Queue} {t : Task} {o : Outcome} : t ∈ q.tasks → t.stage = .ended o →
      Move q [] (q.countEnd t.id o)
  | countFailure {q : Queue} {t : Task} {o : Outcome} : t ∈ q.tasks → t.stage = .counted o →
      Move q [] (q.countFailure t.id o)
  | free {q : Queue} {t : Task} {o : Outcome} : t ∈ q.tasks → t.stage = .recorded o →
      Move q [.freed t.id] (q.free t.id o)
  | reply {q : Queue} {t : Task} {o : Outcome} : t ∈ q.tasks → t.stage = .released o →
      Move q [.answered t.id o.answer] (q.reply t.id o)
  | abandon {q : Queue} {t : Task} {how : Loss} {s : Stage} : t ∈ q.tasks → Leaves t.stage how s →
      Move q [.lost t.id how] (q.abandon t.id s)
  | depart {q : Queue} {t : Task} : t ∈ q.tasks → t.stage.isLeaving = true → Move q [.freed t.id] (q.depart t.id)
  | dropTicket (q : Queue) (id : Nat) : Move q [.dropped id] (q.dropTicket id)
  | take {q : Queue} {id : Nat} {r : Http.Response} : (q.ticket? id).bind TicketState.response? = some r →
      Move q [.taken id r] (q.dropTicket id)

inductive Moves (start : Queue) : List Sign → Queue → Prop where
  | refl : Moves start [] start
  | move {log more : List Sign} {q r : Queue} : Moves start log q → Move q more r → Moves start (log ++ more) r

namespace Moves

variable {p : Queue} {log more : List Sign}

theorem single (h : Move q log r) : Moves q log r := by
  simpa using Moves.refl.move h

theorem trans (h : Moves p log q) (k : Moves q more r) : Moves p (log ++ more) r := by
  induction k with
  | refl => simpa using h
  | move _ m ih =>
    rw [← List.append_assoc]
    exact ih.move m

theorem snoc (h : Moves p log q) (k : Moves q [] r) : Moves p log r := by
  simpa using h.trans k

end Moves

theorem moves_claim (launcher : Launcher) (q : Queue) : Moves q [] (q.claim launcher) := by
  have hand (n : Nat) (hs : n ≤ q.slots - q.inFlight) (hp : n ≤ q.pending.length) :
      Moves q [] { q with
        pending := q.pending.drop n
        inFlight := q.inFlight + n
        tasks := q.tasks ++ (q.pending.take n).map fun a => ⟨a, .claimed launcher⟩ } := by
    induction n with
    | zero =>
      rw [List.take_zero, List.map_nil, List.append_nil]
      exact .refl
    | succ n ih =>
      have hn : n < q.pending.length := hp
      have hl : q.inFlight + n < q.slots := by omega
      have h := (ih (by omega) (by omega)).move
        (.grant launcher (List.drop_eq_getElem_cons hn) hl)
      rw [List.take_succ_eq_append_getElem hn, List.map_append, ← List.append_assoc]
      exact h
  unfold claim
  split
  · exact (hand _ (Nat.min_le_left _ _) (Nat.min_le_right _ _)).move (.unseen _ _ _ _)
  · exact .refl

theorem task?_setStage (h : q.task? id = some t) : (q.setStage id s).task? id = some { t with stage := s } := by
  have hk : ((fun t : Task => t.id == id) ∘ fun t : Task => if t.id = id then { t with stage := s } else t) =
      fun t : Task => t.id == id := by
    funext u
    by_cases hu : u.id = id <;> simp_all [Task.id]
  simp only [task?] at h
  simp only [task?, setStage, List.find?_map, hk, h, Option.map_some]
  simp [(task?_eq_some h).2]

theorem task?_startTask (h : q.task? t.id = some t) :
    ((q.dequeue t.id).startTask t).task? t.id = some { t with stage := .calling } :=
  task?_setStage (q := q.dequeue t.id) h

theorem isRunning_startTask (id : Nat) (t : Task) (q : Queue) :
    ((q.dequeue id).startTask t).isRunning = q.isRunning := by
  simp [isRunning, startTask, setStage, dequeue]

theorem holdsSlot_of_isLeaving (h : s.isLeaving = true) : s.holdsSlot = true := by
  cases s <;> simp_all [Stage.isLeaving, Stage.holdsSlot]

theorem discard_eq (h : q.task? id = some t) (hi : t.stage.isIdle = true) :
    ∃ u, Leaves t.stage .discarded u ∧ q.discard id = q.abandon id u := by
  have hs : q.stage? id = some t.stage := stage?_eq_some_iff.mpr ⟨t, h, rfl⟩
  simp only [discard, hs]
  cases hstage : t.stage with
  | spawned => exact ⟨_, .uncalled, rfl⟩
  | calling => exact ⟨_, .cut, rfl⟩
  | _ => simp [hstage, Stage.isIdle] at hi

theorem filter_setStage (q : Queue) (id : Nat) (s : Stage) :
    (q.setStage id s).tasks.filter (·.id ≠ id) = q.tasks.filter (·.id ≠ id) := by
  have hk : ((fun t : Task => decide (t.id ≠ id)) ∘ fun t : Task => if t.id = id then { t with stage := s } else t) =
      fun t : Task => decide (t.id ≠ id) := by
    funext t
    by_cases h : t.id = id
    · have hs : ({ t with stage := s } : Task).id = id := h
      simp [h, hs]
    · simp [h]
  simp only [setStage, List.filter_map, hk]
  refine (List.map_congr_left fun t ht => if_neg ?_).trans (List.map_id _)
  exact of_decide_eq_true (List.mem_filter.mp ht).2

theorem tasks_depart_abandon (q : Queue) (id : Nat) (s : Stage) :
    ((q.abandon id s).depart id).tasks = (q.removeTask id).tasks := filter_setStage q id s

theorem moves_discard (h : q.task? id = some t) (hi : t.stage.isIdle = true) :
    Moves q [.lost id .discarded] (q.discard id) := by
  obtain ⟨u, hu, he⟩ := discard_eq h hi
  obtain ⟨ht, rfl⟩ := task?_eq_some h
  rw [he]
  exact .single (.abandon ht hu)

theorem moves_vacate (h : q.task? id = some t) (hl : t.stage.isLeaving = true) :
    Moves q [.freed id] (q.vacate id) := by
  obtain ⟨ht, rfl⟩ := task?_eq_some h
  exact (Moves.single (.depart ht hl)).snoc (moves_claim _ _)

theorem moves_submitSection {job : Job} (h : id ∈ q.drawn) :
    Moves q [.ofSubmission id job (q.submitSection id job).1] (q.submitSection id job).2 := by
  unfold submitSection
  split
  · next hp => exact .single (.refuse h hp)
  · next hp => exact (Moves.single (.enter h (Nat.lt_of_not_le hp))).snoc (moves_claim _ _)

theorem claimedBy_head {launcher : Launcher} {ids : List Nat} (h : q.claimedBy launcher = id :: ids) :
    ∃ t ∈ q.tasks, t.id = id ∧ t.stage = .claimed launcher := by
  have hm : id ∈ q.claimedBy launcher := by simp [h]
  simpa [claimedBy, and_assoc, and_comm] using hm

theorem moves_outside {f : Queue → Queue} {log : List Sign}
    (h : Moves { q with runtime := none } log (f { q with runtime := none })) : Moves q log (q.outside f) := by
  have hq := (Moves.single (.unseen q none q.measures q.reading)).trans h
  exact hq.snoc (.single (.unseen _ q.runtime _ _))

/-- What the single steps do. An observer changes nothing but what it keeps for itself. -/
inductive Acts (q : Queue) : Action → Queue → Prop where
  | draw : Acts q .draw q.draw
  | submit {id : Nat} (job : Job) : q.isRunning = true → id ∈ q.drawn →
      Acts q (.submit id job) (q.submitSection id job).2
  | countRefusal : 0 < q.refusing → Acts q .countRefusal q.countRefusal
  | spawn {t : Task} {launcher : Launcher} : t ∈ q.tasks → t.stage = .claimed launcher →
      Acts q (.spawn launcher) (q.spawn launcher t.id)
  | start {t : Task} : q.task? t.id = some t → t.stage = .spawned →
      Acts q (.start t.id) ((q.dequeue t.id).startTask t)
  | crash {t : Task} : q.task? t.id = some t → t.stage = .spawned →
      Acts q (.crash t.id) (((q.dequeue t.id).startTask t).abandon t.id .crashed)
  | vacate {t : Task} : q.isRunning = true → q.task? t.id = some t → t.stage.isLeaving = true →
      Acts q (.vacate t.id) (q.vacate t.id)
  | finish {t : Task} (o : Outcome) : t ∈ q.tasks → t.stage = .calling → Acts q (.finish t.id o) (q.finish t.id o)
  | countEnd {t : Task} {o : Outcome} : t ∈ q.tasks → t.stage = .ended o → Acts q (.countEnd t.id) (q.countEnd t.id o)
  | countFailure {t : Task} {o : Outcome} : t ∈ q.tasks → t.stage = .counted o →
      Acts q (.countFailure t.id) (q.countFailure t.id o)
  | release {t : Task} {o : Outcome} : q.isRunning = true → t ∈ q.tasks → t.stage = .recorded o →
      Acts q (.release t.id) (q.release t.id o)
  | reply {t : Task} {o : Outcome} : q.task? t.id = some t → t.stage = .released o →
      Acts q (.reply t.id) (q.reply t.id o)
  | dropTicket (id : Nat) : Acts q (.dropTicket id) (q.dropTicket id)
  | observe {a : Action} (reading : Reading) : q.signs (.act a) = [] → Acts q a { q with reading }

theorem acts_of_act? {a : Action} {x : Option Snapshot} (h : q.act? a = some (r, x)) : Acts q a r := by
  cases a with
  | draw =>
    simp only [act?, Option.ite_none_right_eq_some, Option.some.injEq, Prod.mk.injEq] at h
    obtain ⟨-, rfl, -⟩ := h
    exact .draw
  | submit id job =>
    simp only [act?, Option.ite_none_right_eq_some, Option.some.injEq, Prod.mk.injEq, Bool.and_eq_true,
      List.contains_iff_mem] at h
    obtain ⟨⟨⟨hr, hd⟩, -⟩, rfl, -⟩ := h
    exact .submit job hr hd
  | countRefusal =>
    simp only [act?, Option.ite_none_right_eq_some, Option.some.injEq, Prod.mk.injEq] at h
    obtain ⟨hr, rfl, -⟩ := h
    exact .countRefusal hr
  | spawn launcher =>
    simp only [act?] at h
    split at h
    · next id ids hc =>
      simp only [Option.ite_none_right_eq_some, Option.some.injEq, Prod.mk.injEq] at h
      obtain ⟨-, rfl, -⟩ := h
      obtain ⟨t, ht, rfl, hs⟩ := claimedBy_head hc
      exact .spawn ht hs
    · cases h
  | start id =>
    simp only [act?, Option.ite_none_right_eq_some, Option.some.injEq, Prod.mk.injEq, Bool.and_eq_true,
      decide_eq_true_eq] at h
    obtain ⟨⟨-, hs⟩, rfl, -⟩ := h
    obtain ⟨t, ht, hst⟩ := stage?_eq_some_iff.mp hs
    obtain ⟨-, rfl⟩ := task?_eq_some ht
    have hd : (q.dequeue t.id).task? t.id = some t := ht
    rw [start_eq hd]
    exact .start ht hst
  | crash id =>
    simp only [act?, Option.ite_none_right_eq_some, Option.some.injEq, Prod.mk.injEq, Bool.and_eq_true,
      decide_eq_true_eq] at h
    obtain ⟨⟨-, hs⟩, rfl, -⟩ := h
    obtain ⟨t, ht, hst⟩ := stage?_eq_some_iff.mp hs
    obtain ⟨-, rfl⟩ := task?_eq_some ht
    have hd : (q.dequeue t.id).task? t.id = some t := ht
    rw [Queue.crash, start_eq hd]
    exact .crash ht hst
  | vacate id =>
    simp only [act?, Option.ite_none_right_eq_some, Option.some.injEq, Prod.mk.injEq, Bool.and_eq_true] at h
    obtain ⟨⟨⟨hr, hq⟩, -⟩, rfl, -⟩ := h
    obtain ⟨t, ht, hl⟩ := isLeaving_iff.mp hq
    obtain ⟨-, rfl⟩ := task?_eq_some ht
    exact .vacate hr ht hl
  | finish id o =>
    simp only [act?, Option.ite_none_right_eq_some, Option.some.injEq, Prod.mk.injEq] at h
    obtain ⟨hs, rfl, -⟩ := h
    obtain ⟨t, ht, rfl, hst⟩ := exists_task_of_stage? hs
    exact .finish o ht hst
  | countEnd id =>
    simp only [act?] at h
    split at h
    · next o hs =>
      cases h
      obtain ⟨t, ht, rfl, hst⟩ := exists_task_of_stage? hs
      exact .countEnd ht hst
    · cases h
  | countFailure id =>
    simp only [act?] at h
    split at h
    · next o hs =>
      cases h
      obtain ⟨t, ht, rfl, hst⟩ := exists_task_of_stage? hs
      exact .countFailure ht hst
    · cases h
  | release id =>
    simp only [act?] at h
    split at h
    · next o hs =>
      simp only [Option.ite_none_right_eq_some, Option.some.injEq, Prod.mk.injEq, Bool.and_eq_true] at h
      obtain ⟨⟨hr, -⟩, rfl, -⟩ := h
      obtain ⟨t, ht, rfl, hst⟩ := exists_task_of_stage? hs
      exact .release hr ht hst
    · cases h
  | reply id =>
    simp only [act?] at h
    split at h
    · next o hs =>
      simp only [Option.ite_none_right_eq_some, Option.some.injEq, Prod.mk.injEq] at h
      obtain ⟨-, rfl, -⟩ := h
      obtain ⟨t, ht, hst⟩ := stage?_eq_some_iff.mp hs
      obtain ⟨-, rfl⟩ := task?_eq_some ht
      exact .reply ht hst
    · cases h
  | dropTicket id =>
    cases h
    exact .dropTicket id
  | lock =>
    simp only [act?, Option.ite_none_right_eq_some, Option.some.injEq, Prod.mk.injEq] at h
    obtain ⟨-, rfl, -⟩ := h
    exact .observe _ rfl
  | loadAdmitted | loadRejected | loadCompleted | loadFailed =>
    simp only [act?] at h
    split at h
    · cases h
      exact .observe _ rfl
    · cases h

theorem Acts.moves {a : Action} (h : Acts q a r) : Moves q (q.signs (.act a)) r := by
  cases h with
  | draw => exact .single (.draw q)
  | submit job hr hd => exact moves_submitSection hd
  | countRefusal hr => exact .single (.countRefusal hr)
  | spawn ht hs => exact (Moves.single (.spawn ht hs)).snoc (.single (.unseen _ _ _ _))
  | @start t ht hs =>
    have hc : q.signs (.act (.start t.id)) = [.called t.admitted] := by simp [signs, callSigns, ht]
    rw [hc]
    exact (Moves.single (.unseen _ _ _ _)).trans (.single (.start (task?_eq_some ht).1 hs))
  | @crash t ht hs =>
    have hc : q.signs (.act (.crash t.id)) = [.called t.admitted, .lost t.id .crashed] := by
      simp [signs, callSigns, ht]
    have hm : Moves q [.called t.admitted] ((q.dequeue t.id).startTask t) :=
      (Moves.single (.unseen _ _ _ _)).trans (.single (.start (task?_eq_some ht).1 hs))
    have hcalling := (task?_eq_some (task?_startTask ht)).1
    rw [hc]
    exact hm.trans (.single (.abandon (t := { t with stage := .calling }) hcalling .crashed))
  | vacate hr ht hl => exact moves_vacate ht hl
  | finish o ht hs => exact .single (.finish o ht hs)
  | countEnd ht hs => exact .single (.countEnd ht hs)
  | countFailure ht hs => exact .single (.countFailure ht hs)
  | release hr ht hs => exact (Moves.single (.free ht hs)).snoc (moves_claim _ _)
  | @reply t o ht hs =>
    have ha : q.signs (.act (.reply t.id)) = [.answered t.id o.answer] := by
      simp [signs, stage?, ht, hs]
    rw [ha]
    exact .single (.reply (task?_eq_some ht).1 hs)
  | dropTicket id => exact .single (.dropTicket q id)
  | observe reading hs =>
    rw [hs]
    exact .single (.unseen _ _ _ _)

theorem outside_submit (job : Job) (q : Queue) : q.outside (fun q => (q.submit job).2) = q := rfl

theorem moves_of_step {e : Event} (h : q.step? e = some r) : Moves q (q.signs e) r := by
  cases e with
  | act a =>
    obtain ⟨⟨s, x⟩, ha, rfl⟩ := Option.map_eq_some_iff.mp h
    exact (acts_of_act? ha).moves
  | submitOutside job =>
    cases h
    rw [outside_submit]
    exact .single (.noRuntime q)
  | poll id =>
    cases h
    cases hr : (q.ticket? id).bind TicketState.response? with
    | none =>
      simp only [signs, poll, hr, Option.toList_none, List.map_nil]
      exact .refl
    | some x =>
      simp only [signs, poll, hr, Option.toList_some, List.map_cons, List.map_nil]
      exact .single (.take hr)
  | discard id =>
    simp only [step?, Option.ite_none_right_eq_some, Option.some.injEq] at h
    obtain ⟨hi, rfl⟩ := h
    obtain ⟨t, ht, hi⟩ := isIdle_iff.mp hi
    exact moves_discard ht hi
  | vacateOutside id =>
    simp only [step?, Option.ite_none_right_eq_some, Option.some.injEq, Bool.and_eq_true] at h
    obtain ⟨⟨⟨hl, -⟩, -⟩, rfl⟩ := h
    obtain ⟨t, ht, hl⟩ := isLeaving_iff.mp hl
    exact moves_outside (moves_vacate ht hl)
  | schedule x =>
    simp only [step?, Option.ite_none_right_eq_some, Option.some.injEq] at h
    obtain ⟨-, rfl⟩ := h
    exact .single (.unseen _ _ _ _)
  | stop =>
    simp only [step?, Option.ite_none_right_eq_some, Option.some.injEq] at h
    obtain ⟨-, rfl⟩ := h
    exact .single (.unseen _ _ _ _)
  | restart =>
    simp only [step?, Option.ite_none_left_eq_some, Option.some.injEq] at h
    obtain ⟨-, rfl⟩ := h
    exact .single (.unseen _ _ _ _)

theorem Run.moves {allowed : Queue → Event → Prop} {p : Queue} {log : List Sign} (h : Run allowed p log q) :
    Moves p log q := by
  induction h with
  | refl => exact .refl
  | step _ _ hs ih => exact ih.trans (moves_of_step hs)

end Turnstile.Queue
