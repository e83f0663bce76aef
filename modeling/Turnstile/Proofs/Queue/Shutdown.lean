import Mathlib
import Turnstile.Proofs.Queue.Delivery
import Turnstile.Proofs.Queue.Launch

namespace Turnstile.Queue

variable {q r s : Queue} {t : Task} {before after : List Task} {log more : List Sign} {id : Nat} {e : Event}

def Stage.outcome? : Stage → Option Outcome
  | ended o | counted o | recorded o | released o => some o
  | _ => none

def Stage.owesEnd : Stage → Bool
  | ended _ => true
  | _ => false

/-- The stages in which a call has failed and the totals do not tell of it yet. -/
def Stage.owesFailure : Stage → Bool
  | ended o | counted o => o.isFailure
  | _ => false

def Event.unwinds : Event → Bool
  | .discard _ | .act (.vacate _) | .act (.spawn _) => true
  | .act (.countEnd _) | .act (.countFailure _) | .act (.release _) | .act (.reply _) => true
  | .act .loadAdmitted | .act .loadRejected | .act .loadCompleted | .act .loadFailed => true
  | _ => false

def Stage.effort : Stage → Nat
  | ended _ => 4
  | counted _ => 3
  | claimed _ => 3
  | spawned | calling | recorded _ => 2
  | released _ | discarded _ | crashed => 1

def Reading.effort : Reading → Nat
  | none => 0
  | begun .. => 4
  | admitted .. => 3
  | rejected .. => 2
  | completed .. => 1

/-- A bound for the steps that are left. A job that waits has to be claimed first. -/
def effort (q : Queue) : Nat :=
  4 * q.pending.length + (q.tasks.map (·.stage.effort)).sum + q.reading.effort

theorem effort_setStage (h : Stands q t before after) (u : Stage) :
    (q.setStage t.id u).effort + t.stage.effort = q.effort + u.effort := by
  have hp : (q.setStage t.id u).pending = q.pending := rfl
  have hr : (q.setStage t.id u).reading = q.reading := rfl
  simp only [effort, hp, hr, h.setStage, h.tasks, List.map_append, List.map_cons, List.sum_append, List.sum_cons]
  omega

theorem effort_setStage_lt {u : Stage} (h : Stands q t before after) (hu : u.effort < t.stage.effort) :
    (q.setStage t.id u).effort < q.effort := by
  have he := effort_setStage h u
  omega

theorem effort_removeTask (h : Stands q t before after) : (q.removeTask t.id).effort + t.stage.effort = q.effort := by
  have hp : (q.removeTask t.id).pending = q.pending := rfl
  have hr : (q.removeTask t.id).reading = q.reading := rfl
  simp only [effort, hp, hr, h.removeTask, h.tasks, List.map_append, List.map_cons, List.sum_append, List.sum_cons]
  omega

theorem effort_claim_le (launcher : Launcher) (q : Queue) : (q.claim launcher).effort ≤ q.effort := by
  unfold claim
  split
  · simp only [effort, List.map_append, List.map_map, List.sum_append, List.length_drop]
    have hs (as : List Admitted) :
        (as.map ((fun t : Task => t.stage.effort) ∘ fun a => ⟨a, .claimed launcher⟩)).sum = 3 * as.length := by
      simp [Function.comp_def, Stage.effort, List.map_const', Nat.mul_comm]
    rw [hs, List.length_take]
    omega
  · exact Nat.le_refl _

theorem count_claim {p : Stage → Bool} {launcher : Launcher} (hp : p (.claimed launcher) = false) (q : Queue) :
    (q.claim launcher).count p = q.count p := by
  unfold claim
  split
  · simp only [count, List.countP_append, List.countP_map]
    have hn (as : List Admitted) :
        as.countP ((fun t : Task => p t.stage) ∘ fun a => ⟨a, .claimed launcher⟩) = 0 :=
      List.countP_eq_zero.mpr fun a _ => by simp [hp]
    rw [hn]
    rfl
  · rfl

/-- The steps in which a runtime is taken away. -/
inductive Unwinds (q : Queue) : Event → Queue → Prop where
  | discard {t : Task} {u : Stage} : t ∈ q.tasks → Leaves t.stage .discarded u →
      Unwinds q (.discard t.id) (q.abandon t.id u)
  | vacate {t : Task} : t ∈ q.tasks → t.stage.isLeaving = true → Unwinds q (.act (.vacate t.id)) (q.vacate t.id)
  | spawn {t : Task} {launcher : Launcher} : t ∈ q.tasks → t.stage = .claimed launcher →
      Unwinds q (.act (.spawn launcher)) (q.spawn launcher t.id)
  | countEnd {t : Task} {o : Outcome} : t ∈ q.tasks → t.stage = .ended o →
      Unwinds q (.act (.countEnd t.id)) (q.countEnd t.id o)
  | countFailure {t : Task} {o : Outcome} : t ∈ q.tasks → t.stage = .counted o →
      Unwinds q (.act (.countFailure t.id)) (q.countFailure t.id o)
  | release {t : Task} {o : Outcome} : t ∈ q.tasks → t.stage = .recorded o →
      Unwinds q (.act (.release t.id)) (q.release t.id o)
  | reply {t : Task} {o : Outcome} : t ∈ q.tasks → t.stage = .released o →
      Unwinds q (.act (.reply t.id)) (q.reply t.id o)
  | load {a : Action} (reading : Reading) : reading.effort < q.reading.effort → Unwinds q (.act a) { q with reading }

theorem unwinds_of_step (he : e.unwinds = true) (h : q.step? e = some r) : Unwinds q e r := by
  cases e with
  | discard id =>
    simp only [step?, Option.ite_none_right_eq_some, Option.some.injEq] at h
    obtain ⟨hi, rfl⟩ := h
    obtain ⟨t, ht, hst⟩ := isIdle_iff.mp hi
    obtain ⟨u, hu, he⟩ := discard_eq ht hst
    rw [he]
    obtain ⟨hm, rfl⟩ := task?_eq_some ht
    exact .discard hm hu
  | act a =>
    obtain ⟨⟨s, x⟩, ha, rfl⟩ := Option.map_eq_some_iff.mp h
    cases a with
    | spawn launcher =>
      simp only [act?] at ha
      split at ha
      · next id ids hc =>
        simp only [Option.ite_none_right_eq_some, Option.some.injEq, Prod.mk.injEq] at ha
        obtain ⟨-, rfl, -⟩ := ha
        obtain ⟨t, ht, rfl, hs⟩ := claimedBy_head hc
        exact .spawn ht hs
      · cases ha
    | vacate id =>
      simp only [act?, Option.ite_none_right_eq_some, Option.some.injEq, Prod.mk.injEq, Bool.and_eq_true] at ha
      obtain ⟨⟨⟨-, hl⟩, -⟩, rfl, -⟩ := ha
      obtain ⟨t, ht, hst⟩ := isLeaving_iff.mp hl
      obtain ⟨hm, rfl⟩ := task?_eq_some ht
      exact .vacate hm hst
    | countEnd id | countFailure id =>
      simp only [act?] at ha
      split at ha
      · next o hs =>
        cases ha
        obtain ⟨t, ht, rfl, hst⟩ := exists_task_of_stage? hs
        first | exact .countEnd ht hst | exact .countFailure ht hst
      · cases ha
    | release id =>
      simp only [act?] at ha
      split at ha
      · next o hs =>
        simp only [Option.ite_none_right_eq_some, Option.some.injEq, Prod.mk.injEq] at ha
        obtain ⟨-, rfl, -⟩ := ha
        obtain ⟨t, ht, rfl, hst⟩ := exists_task_of_stage? hs
        exact .release ht hst
      · cases ha
    | reply id =>
      simp only [act?] at ha
      split at ha
      · next o hs =>
        simp only [Option.ite_none_right_eq_some, Option.some.injEq, Prod.mk.injEq] at ha
        obtain ⟨-, rfl, -⟩ := ha
        obtain ⟨t, ht, rfl, hst⟩ := exists_task_of_stage? hs
        exact .reply ht hst
      · cases ha
    | loadAdmitted | loadRejected | loadCompleted | loadFailed =>
      simp only [act?] at ha
      split at ha
      · next hr =>
        cases ha
        exact .load _ (by rw [hr]; exact Nat.lt_succ_self _)
      · cases ha
    | _ => cases he
  | _ => cases he

/-- What stays the same while a runtime is taken away, and what does not: a turn that is finished counts what it has
still to count, and a ticket that waits gets its answer. -/
structure Wanes (q : Queue) (more : List Sign) (r : Queue) : Prop where
  runtime : r.isRunning = q.isRunning
  drawn : r.drawn = q.drawn
  refusing : r.refusing = q.refusing
  calls : r.calls = q.calls
  admitted : r.totals.admitted = q.totals.admitted
  rejected : r.totals.rejected = q.totals.rejected
  completed : r.totals.completed + r.count Stage.owesEnd = q.totals.completed + q.count Stage.owesEnd
  failed : r.totals.failed + r.count Stage.owesFailure = q.totals.failed + q.count Stage.owesFailure
  tickets : r.tickets.map Ticket.id = q.tickets.map Ticket.id
  decided : ∀ id s, q.ticket? id = some s → s ≠ .waiting → r.ticket? id = some s
  silent : ∀ id o, .ended id o ∉ more

theorem ticket?_resolve {u v : TicketState} {i : Nat} (h : q.ticket? id = some u) (hu : u ≠ .waiting) :
    (q.resolve i v).ticket? id = some u := by
  obtain ⟨k, hf, rfl⟩ := Option.map_eq_some_iff.mp h
  have hk : ((fun k : Ticket => k.id == id) ∘
      fun k : Ticket => if k.id = i ∧ k.state = .waiting then { k with state := v } else k) =
      fun k : Ticket => k.id == id := by
    funext k
    by_cases hw : k.id = i ∧ k.state = .waiting <;> simp [hw]
  simp only [ticket?, resolve, List.find?_map, hk, hf, Option.map_some, if_neg fun hw => hu (And.right hw)]

namespace Wanes

theorem refl (q : Queue) : Wanes q [] q := by
  constructor
  case decided => exact fun _ _ h _ => h
  all_goals simp

theorem trans (h : Wanes q log r) (k : Wanes r more s) : Wanes q (log ++ more) s where
  runtime := k.runtime.trans h.runtime
  drawn := k.drawn.trans h.drawn
  refusing := k.refusing.trans h.refusing
  calls := k.calls.trans h.calls
  admitted := k.admitted.trans h.admitted
  rejected := k.rejected.trans h.rejected
  completed := k.completed.trans h.completed
  failed := k.failed.trans h.failed
  tickets := k.tickets.trans h.tickets
  decided id u hu hw := k.decided id u (h.decided id u hu hw) hw
  silent id o hm := (List.mem_append.mp hm).elim (h.silent id o) (k.silent id o)

theorem claim (launcher : Launcher) (q : Queue) : Wanes q [] (q.claim launcher) := by
  have hc (p : Stage → Bool) (hp : p (.claimed launcher) = false) := count_claim hp q
  have he := hc Stage.owesEnd rfl
  have hf := hc Stage.owesFailure rfl
  constructor
  case runtime => exact isRunning_claim launcher q
  case completed => rw [he, totals_claim]
  case failed => rw [hf, totals_claim]
  case decided =>
    intro id u hu _
    rw [← hu]
    unfold Queue.claim
    split <;> rfl
  case silent => simp
  all_goals
    unfold Queue.claim
    split <;> rfl

theorem snoc (h : Wanes q log r) (k : Wanes r [] s) : Wanes q log s := by
  simpa using h.trans k

theorem resolve (id : Nat) (v : TicketState) (q : Queue) : Wanes q [] (q.resolve id v) := by
  constructor
  case tickets => exact Ticketed.map_id_resolve _ _ _
  case decided => exact fun i u hu hw => ticket?_resolve hu hw
  case silent => simp
  all_goals rfl

theorem of_setStage {u : Stage} (h : Stands q t before after) (hr : r.isRunning = q.isRunning) (hdr : r.drawn = q.drawn)
    (href : r.refusing = q.refusing) (hcl : r.calls = q.calls) (hts : r.tasks = (q.setStage t.id u).tasks)
    (htk : r.tickets = q.tickets) (ha : r.totals.admitted = q.totals.admitted)
    (hrj : r.totals.rejected = q.totals.rejected)
    (hc : r.totals.completed + u.owesEnd.toNat = q.totals.completed + t.stage.owesEnd.toNat)
    (hf : r.totals.failed + u.owesFailure.toNat = q.totals.failed + t.stage.owesFailure.toNat)
    (hm : ∀ id o, .ended id o ∉ more) : Wanes q more r := by
  have hcount (p : Stage → Bool) : r.count p + (p t.stage).toNat = q.count p + (p u).toNat := by
    rw [← count_setStage h, count, count, hts]
  have he := hcount Stage.owesEnd
  have hw := hcount Stage.owesFailure
  constructor
  case completed => omega
  case failed => omega
  case tickets => rw [htk]
  case decided =>
    intro id v hv _
    rwa [ticket?, htk]
  case silent => exact hm
  all_goals assumption

theorem of_removeTask (h : Stands q t before after) (he : t.stage.owesEnd = false)
    (hf : t.stage.owesFailure = false) (hr : r.isRunning = q.isRunning) (hdr : r.drawn = q.drawn)
    (href : r.refusing = q.refusing) (hcl : r.calls = q.calls) (hts : r.tasks = (q.removeTask t.id).tasks)
    (htk : r.tickets = q.tickets) (htot : r.totals = q.totals)
    (hm : ∀ id o, .ended id o ∉ more) : Wanes q more r := by
  have hcount (p : Stage → Bool) (hp : p t.stage = false) : r.count p = q.count p := by
    have hc := count_removeTask h p
    rw [hp] at hc
    rw [← hc, count, count, hts]
    rfl
  constructor
  case admitted | rejected => rw [htot]
  case completed => rw [htot, hcount _ he]
  case failed => rw [htot, hcount _ hf]
  case tickets => rw [htk]
  case decided =>
    intro id u hu _
    rwa [ticket?, htk]
  case silent => exact hm
  all_goals assumption

end Wanes

namespace Leaves

variable {u v : Stage} {how : Loss} (h : Leaves u how v)
include h

theorem owes : v.owesEnd = u.owesEnd ∧ v.owesFailure = u.owesFailure := by cases h <;> exact ⟨rfl, rfl⟩

theorem effort_lt : v.effort < u.effort := by cases h <;> exact Nat.lt_succ_self _

end Leaves

theorem ended_notMem_signs {o : Outcome} (he : e.unwinds = true) : .ended id o ∉ q.signs e := by
  unfold Event.unwinds at he
  split at he
  case h_7 =>
    simp only [signs]
    split <;> simp
  case h_12 => cases he
  all_goals simp [signs]

theorem Unwinds.wanes (h : Unwinds q e r) (hd : Distinct q) (he : e.unwinds = true) : Wanes q (q.signs e) r := by
  have hm (id : Nat) (o : Outcome) : .ended id o ∉ q.signs e := ended_notMem_signs he
  cases h with
  | @discard t u ht hl =>
    obtain ⟨before, after, hst⟩ := hd.stands ht
    obtain ⟨hend, hfail⟩ := hl.owes
    have hgone : Wanes q (q.signs (.discard t.id)) ((q.setStage t.id u).dequeue t.id) :=
      .of_setStage hst (isRunning_abandon t.id u q) rfl rfl rfl rfl rfl rfl rfl (by rw [hend]; rfl)
        (by rw [hfail]; rfl) hm
    exact hgone.snoc (.resolve _ _ _)
  | @vacate t ht hl =>
    obtain ⟨before, after, hst⟩ := hd.stands ht
    have howes : t.stage.owesEnd = false ∧ t.stage.owesFailure = false := by
      cases hs : t.stage <;> simp [hs, Stage.isLeaving, Stage.owesEnd, Stage.owesFailure] at hl ⊢
    have hd : Wanes q (q.signs (.act (.vacate t.id))) (q.depart t.id) :=
      .of_removeTask hst howes.1 howes.2 rfl rfl rfl rfl rfl rfl rfl hm
    exact hd.snoc (.claim _ _)
  | @spawn t launcher ht hs =>
    obtain ⟨before, after, hst⟩ := hd.stands ht
    have hr : (q.spawn launcher t.id).isRunning = q.isRunning := by
      simp [isRunning, Queue.spawn, enqueue, setStage]
    exact .of_setStage hst hr rfl rfl rfl rfl rfl rfl rfl (by rw [hs]; rfl) (by rw [hs]; rfl) hm
  | @countEnd t o ht hs =>
    obtain ⟨before, after, hst⟩ := hd.stands ht
    exact .of_setStage hst rfl rfl rfl rfl rfl rfl rfl rfl (by rw [hs]; rfl) (by rw [hs]; rfl) hm
  | @countFailure t o ht hs =>
    obtain ⟨before, after, hst⟩ := hd.stands ht
    rw [countFailure_eq]
    exact .of_setStage hst rfl rfl rfl rfl rfl rfl rfl rfl (by rw [hs]; rfl)
      (by rw [hs]; cases ho : o.isFailure <;> simp [Stage.owesFailure, ho]) hm
  | @release t o ht hs =>
    obtain ⟨before, after, hst⟩ := hd.stands ht
    have hf : Wanes q (q.signs (.act (.release t.id))) (q.free t.id o) :=
      .of_setStage hst rfl rfl rfl rfl rfl rfl rfl rfl (by rw [hs]; rfl) (by rw [hs]; rfl) hm
    exact hf.snoc (.claim _ _)
  | @reply t o ht hs =>
    obtain ⟨before, after, hst⟩ := hd.stands ht
    have hr : Wanes q (q.signs (.act (.reply t.id))) (q.removeTask t.id) :=
      .of_removeTask hst (by rw [hs]; rfl) (by rw [hs]; rfl) rfl rfl rfl rfl rfl rfl rfl hm
    exact hr.snoc (.resolve _ _ _)
  | load reading hl => exact { Wanes.refl q with silent := hm }

theorem Unwinds.effort_lt (h : Unwinds q e r) (hd : Distinct q) : r.effort < q.effort := by
  cases h with
  | @discard t u ht hl =>
    obtain ⟨before, after, hst⟩ := hd.stands ht
    exact effort_setStage_lt hst hl.effort_lt
  | @vacate t ht hl =>
    obtain ⟨before, after, hst⟩ := hd.stands ht
    have hr : (q.depart t.id).effort + t.stage.effort = q.effort := effort_removeTask hst
    have hs : 0 < t.stage.effort := by cases t.stage <;> exact Nat.succ_pos _
    have hc : (q.vacate t.id).effort ≤ (q.depart t.id).effort := effort_claim_le _ _
    omega
  | @spawn t launcher ht hs =>
    obtain ⟨before, after, hst⟩ := hd.stands ht
    exact effort_setStage_lt hst (by rw [hs]; exact Nat.lt_succ_self _)
  | @countEnd t o ht hs =>
    obtain ⟨before, after, hst⟩ := hd.stands ht
    exact effort_setStage_lt hst (by rw [hs]; exact Nat.lt_succ_self _)
  | @countFailure t o ht hs =>
    obtain ⟨before, after, hst⟩ := hd.stands ht
    rw [countFailure_eq]
    exact effort_setStage_lt hst (by rw [hs]; exact Nat.lt_succ_self _)
  | @release t o ht hs =>
    obtain ⟨before, after, hst⟩ := hd.stands ht
    have hf : (q.free t.id o).effort < q.effort := effort_setStage_lt hst (by rw [hs]; exact Nat.lt_succ_self _)
    exact Nat.lt_of_le_of_lt (effort_claim_le _ _) hf
  | @reply t o ht hs =>
    obtain ⟨before, after, hst⟩ := hd.stands ht
    have hr : (q.reply t.id o).effort + t.stage.effort = q.effort := effort_removeTask hst
    rw [hs] at hr
    exact Nat.lt_of_succ_le (Nat.le_of_eq hr)
  | load reading hl => exact Nat.add_lt_add_left hl _

theorem exists_unwinds (hd : Distinct q) (hr : q.isRunning = true) (hn : q.tasks ≠ [] ∨ q.isFree = false) :
    ∃ e r, e.unwinds = true ∧ q.step? e = some r := by
  cases hread : q.reading with
  | begun p f => exact ⟨.act .loadAdmitted, _, rfl, by simp only [step?, act?, hread]; rfl⟩
  | admitted p f a => exact ⟨.act .loadRejected, _, rfl, by simp only [step?, act?, hread]; rfl⟩
  | rejected p f a b => exact ⟨.act .loadCompleted, _, rfl, by simp only [step?, act?, hread]; rfl⟩
  | completed p f a b c => exact ⟨.act .loadFailed, _, rfl, by simp only [step?, act?, hread]; rfl⟩
  | none =>
    have hfree : q.isFree = true := by simp [isFree, hread]
    have hsome : q.tasks ≠ [] := hn.resolve_right (by simp [hfree])
    obtain ⟨t, ht⟩ := List.exists_mem_of_ne_nil _ hsome
    have hspawn {launcher : Launcher} (hc : q.claimedBy launcher ≠ []) :
        ∃ e r, e.unwinds = true ∧ q.step? e = some r := by
      obtain ⟨id, ids, hc⟩ := List.exists_cons_of_ne_nil hc
      exact ⟨.act (.spawn launcher), q.spawn launcher id, rfl, by simp [step?, act?, hc, hr]⟩
    have hst : q.stage? t.id = some t.stage := stage?_eq_some_iff.mpr ⟨t, hd.task?_eq_some ht, rfl⟩
    have hidle (hi : t.stage.isIdle = true) : ∃ e r, e.unwinds = true ∧ q.step? e = some r :=
      ⟨.discard t.id, q.discard t.id, rfl, by simp [step?, isIdle, hst, hi]⟩
    have hleaving (hl : t.stage.isLeaving = true) : ∃ e r, e.unwinds = true ∧ q.step? e = some r :=
      ⟨.act (.vacate t.id), q.vacate t.id, rfl, by simp [step?, act?, isLeaving, hst, hr, hfree, hl]⟩
    cases hs : t.stage with
    | claimed launcher =>
      have hne : q.claimedBy launcher ≠ [] := by
        simp only [claimedBy, ne_eq, List.map_eq_nil_iff, List.filter_eq_nil_iff, decide_eq_true_iff]
        exact fun hall => hall t ht hs
      exact hspawn hne
    | spawned | calling => exact hidle (by rw [hs]; rfl)
    | discarded | crashed => exact hleaving (by rw [hs]; rfl)
    | ended o => exact ⟨.act (.countEnd t.id), _, rfl, by simp only [step?, act?, hst, hs]; rfl⟩
    | counted o => exact ⟨.act (.countFailure t.id), _, rfl, by simp only [step?, act?, hst, hs]; rfl⟩
    | recorded o => exact ⟨.act (.release t.id), q.release t.id o, rfl, by simp [step?, act?, hst, hs, hr, hfree]⟩
    | released o =>
      by_cases hc : q.claimedBy (.release t.id) = []
      · exact ⟨.act (.reply t.id), q.reply t.id o, rfl, by simp [step?, act?, hst, hs, hc]⟩
      · exact hspawn hc

theorem attended_of_unwinds (he : e.unwinds = true) (q : Queue) : attended q e := by
  rintro id rfl
  cases he

theorem play?_append {es fs : List Event} (h : q.play? es = some (log, r)) (k : r.play? fs = some (more, s)) :
    q.play? (es ++ fs) = some (log ++ more, s) := by
  induction es generalizing q log with
  | nil =>
    simp only [play?, Option.some.injEq, Prod.mk.injEq] at h
    obtain ⟨rfl, rfl⟩ := h
    exact k
  | cons e es ih =>
    simp only [play?, Option.bind_eq_bind, Option.bind_eq_some_iff, Option.some.injEq, Prod.mk.injEq] at h
    obtain ⟨p, hp, ⟨rest, u⟩, hs, rfl, rfl⟩ := h
    simp only [List.cons_append, play?, hp, ih hs, Option.bind_eq_bind, Option.bind_some, List.append_assoc]

theorem wanes_of_play? {es : List Event} (hd : Distinct q) (he : ∀ e ∈ es, e.unwinds = true)
    (h : q.play? es = some (more, r)) : Wanes q more r ∧ Distinct r ∧ es.length + r.effort ≤ q.effort := by
  induction es generalizing q more with
  | nil =>
    simp only [play?, Option.some.injEq, Prod.mk.injEq] at h
    obtain ⟨rfl, rfl⟩ := h
    exact ⟨.refl q, hd, Nat.le_of_eq (Nat.zero_add _)⟩
  | cons e es ih =>
    simp only [play?, Option.bind_eq_bind, Option.bind_eq_some_iff, Option.some.injEq, Prod.mk.injEq] at h
    obtain ⟨p, hp, ⟨rest, u⟩, hs, rfl, rfl⟩ := h
    have hu := unwinds_of_step (he e (by simp)) hp
    obtain ⟨hw, hr, hl⟩ := ih ((moves_of_step hp).distinct hd) (fun e hm => he e (by simp [hm])) hs
    have hlt := hu.effort_lt hd
    refine ⟨(hu.wanes hd (he e (by simp))).trans hw, hr, ?_⟩
    rw [List.length_cons]
    omega

theorem exists_play?_unwinding (hd : Distinct q) (hr : q.isRunning = true) : ∃ es more r,
    (∀ e ∈ es, e.unwinds = true) ∧ q.play? es = some (more, r) ∧ r.tasks = [] ∧ r.isFree = true := by
  generalize hn : q.effort = n
  induction n using Nat.strongRecOn generalizing q with
  | _ n ih =>
    by_cases hdone : q.tasks = [] ∧ q.isFree = true
    · exact ⟨[], [], q, by simp, rfl, hdone⟩
    · have hleft : q.tasks ≠ [] ∨ q.isFree = false := by
        by_cases ht : q.tasks = []
        · exact .inr (by simpa [ht] using hdone)
        · exact .inl ht
      obtain ⟨e, p, he, hp⟩ := exists_unwinds hd hr hleft
      have hu := unwinds_of_step he hp
      have hw := hu.wanes hd he
      obtain ⟨es, more, r, hes, hrest, hend⟩ := ih p.effort (hn ▸ hu.effort_lt hd) ((moves_of_step hp).distinct hd)
        (hw.runtime.trans hr) rfl
      refine ⟨e :: es, q.signs e ++ more, r, ?_, ?_, hend⟩
      · simpa [he] using hes
      · simp only [play?, hp, hrest, Option.bind_eq_bind, Option.bind_some]

namespace Unwinding

theorem play?_discard (h : Unwinding q) (ht : t ∈ q.tasks) : ∃ es more, (∀ e ∈ es, e.unwinds = true) ∧
    q.play? es = some (more, ((q.discard t.id).vacate t.id).launch (.release t.id)) := by
  have hi := h.stages t ht
  have hf := h.sound.distinct.task?_eq_some ht
  obtain ⟨u, hu, he⟩ := discard_eq hf hi
  have hdiscard : q.step? (.discard t.id) = some (q.discard t.id) := by simp [step?, isIdle, stage?, hf, hi]
  have hleaving : (q.discard t.id).isLeaving t.id = true := by
    rw [he]
    exact isLeaving_iff.mpr ⟨_, task?_setStage hf, hu.isLeaving⟩
  have hrun : (q.discard t.id).isRunning = true := (isRunning_discard t.id q).trans h.running
  have hfree : (q.discard t.id).isFree = true := by
    rw [he]
    exact h.quiet.1
  have hvacate : (q.discard t.id).step? (.act (.vacate t.id)) = some ((q.discard t.id).vacate t.id) := by
    simp [step?, act?, hrun, hleaving, hfree]
  have hboth : q.play? [.discard t.id, .act (.vacate t.id)] =
      some ([.lost t.id .discarded, .freed t.id], (q.discard t.id).vacate t.id) := by
    simp only [play?, hdiscard, hvacate, Option.bind_eq_bind, Option.bind_some]
    rfl
  have hd := (moves_of_step hvacate).distinct ((moves_of_step hdiscard).distinct h.sound.distinct)
  have hr : ((q.discard t.id).vacate t.id).isRunning = true := (isRunning_claim _ _).trans hrun
  refine ⟨_, _, fun e he => ?_, play?_append hboth (play?_launch (.release t.id) hr hd)⟩
  simp only [List.mem_append, List.mem_cons, List.not_mem_nil, or_false, List.mem_map] at he
  obtain (rfl | rfl) | ⟨_, _, rfl⟩ := he <;> rfl

theorem play?_discardAll (fuel : Nat) (h : Unwinding q) : ∃ es more, (∀ e ∈ es, e.unwinds = true) ∧
    q.play? es = some (more, Queue.discardAll fuel q) := by
  induction fuel generalizing q with
  | zero => exact ⟨[], [], by simp, rfl⟩
  | succ fuel ih =>
    cases ht : q.tasks with
    | nil =>
      simp only [Queue.discardAll, ht]
      exact ⟨[], [], by simp, rfl⟩
    | cons t rest =>
      have hm : t ∈ q.tasks := by simp [ht]
      obtain ⟨es, more, hes, hp⟩ := h.play?_discard hm
      obtain ⟨fs, last, hfs, hq⟩ := ih (h.discard hm).2.1
      simp only [Queue.discardAll, ht]
      refine ⟨es ++ fs, more ++ last, fun e he => ?_, play?_append hp hq⟩
      exact (List.mem_append.mp he).elim (hes e) (hfs e)

theorem play?_stop (h : Unwinding q) : ∃ es more, (∀ e ∈ es, e.unwinds = true) ∧
    q.play? (es ++ [.stop]) = some (more, q.stop) := by
  obtain ⟨es, more, hes, hp⟩ := h.play?_discardAll (2 * q.pending.length + q.tasks.length)
  obtain ⟨-, hu, ht⟩ := h.discardAll _ (Nat.le_refl _)
  refine ⟨es, more ++ [], hes, play?_append hp ?_⟩
  simp only [Queue.stop, h.running, if_true]
  generalize Queue.discardAll _ q = p at hu ht
  simp [play?, step?, hu.running, ht, hu.quiet.2.1, signs]

end Unwinding

/-- What the ticket of a job shows in the end, if the runtime is taken away now: the end of its call is told if there was
one before. -/
def lastAnswer (q : Queue) (id : Nat) : Http.Response :=
  (((q.stage? id).bind Stage.outcome?).map Outcome.answer).getD (.plain 502 "Upstream error")

/-- What is left of a queue without its runtime. Where no turn was under way, nothing was counted on the way, and whoever
still waited for an answer is refused. -/
structure ShutDown (q r : Queue) : Prop where
  tasks : r.tasks = []
  pending : r.pending = []
  inFlight : r.inFlight = 0
  calls : r.calls = q.calls
  totals : r.totals = { q.totals with
    completed := q.totals.completed + q.count Stage.owesEnd
    failed := q.totals.failed + q.count Stage.owesFailure }
  tickets : r.tickets.map Ticket.id = q.tickets.map Ticket.id
  resolved : ∀ id x, (q.poll id).1 = some x → (r.poll id).1 = some x
  unresolved : ∀ k ∈ q.tickets, (q.poll k.id).1 = none → (r.poll k.id).1 = some (q.lastAnswer k.id)
  uncounted : (∀ t ∈ q.tasks, t.stage.outcome? = none) → r.totals = q.totals
  refused : (∀ t ∈ q.tasks, t.stage.outcome? = none) → ∀ k ∈ q.tickets, (q.poll k.id).1 = none →
    (r.poll k.id).1 = some (.plain 502 "Upstream error")
  stop : q.drawn = [] → r.step? .stop = some { r with runtime := none }

theorem poll_fst (q : Queue) (id : Nat) : (q.poll id).1 = (q.ticket? id).bind TicketState.response? := by
  unfold poll
  cases (q.ticket? id).bind TicketState.response? <;> rfl

theorem Wanes.poll {x : Http.Response} (h : Wanes q more r) (hx : (q.poll id).1 = some x) :
    (r.poll id).1 = some x := by
  rw [poll_fst] at hx ⊢
  obtain ⟨u, hu, hx⟩ := Option.bind_eq_some_iff.mp hx
  rw [h.decided id u hu (by rintro rfl; cases hx)]
  exact hx

theorem Told.ended_iff {a : Admitted} {o : Outcome} (h : Told log q) (ha : a ∈ q.live) :
    .ended a.id o ∈ log ↔ (q.stage? a.id).bind Stage.outcome? = some o := by
  have hstory : .ended a.id o ∈ log ↔ .ended a.id o ∈ story a.id log := by
    simp [mem_story, Sign.subject?]
  rw [hstory]
  obtain ha | ha := List.mem_append.mp ha
  · obtain ⟨t, ht, rfl⟩ := List.mem_map.mp ha
    have hs : q.stage? t.admitted.id = some t.stage :=
      stage?_eq_some_iff.mpr ⟨t, h.distinct.task?_eq_some ht, rfl⟩
    rw [h.story_task ht, hs, Option.bind_some]
    cases t.stage with
    | discarded called => cases called <;> simp [Stage.told, Stage.outcome?]
    | _ => simp [Stage.told, Stage.outcome?, eq_comm]
  · have hs : q.stage? a.id = none := by
      simp only [stage?, task?, Option.map_eq_none_iff, List.find?_eq_none, beq_iff_eq]
      exact fun t ht he => h.distinct.pending_ne ht ha he.symm
    rw [h.story_pending ha, hs]
    simp

theorem Told.poll_of_gone {a : Admitted} (h : Told (log ++ more) r) (hk : Known (log ++ more))
    (ht : Ticketed (log ++ more) r) (hq : Told log q) (hm : ∀ id o, .ended id o ∉ more) (hl : r.live = [])
    (ha : a ∈ q.live) (hid : a.id ∈ r.tickets.map Ticket.id) : (r.poll a.id).1 = some (q.lastAnswer a.id) := by
  have hgone : ∀ b ∈ r.live, b.id ≠ a.id := by simp [hl]
  have hended (o : Outcome) : .ended a.id o ∈ log ++ more ↔ (q.stage? a.id).bind Stage.outcome? = some o := by
    rw [← hq.ended_iff ha, List.mem_append, or_iff_left (hm a.id o)]
  cases ho : (q.stage? a.id).bind Stage.outcome? with
  | some o =>
    rw [poll_fst, h.ticket?_of_ended hk ht hid hgone ((hended o).mpr ho), lastAnswer, ho]
    rfl
  | none =>
    obtain ⟨k, hkr, hka⟩ := List.mem_map.mp hid
    have hshown := ht.shown k hkr
    have hpoll := ht.poll hkr
    rw [hka] at hshown hpoll
    rw [hpoll, lastAnswer, ho]
    generalize k.state = u at hshown
    cases hshown with
    | waiting hb hi => exact absurd hi (hgone _ hb.live)
    | answered hx =>
      obtain ⟨o, hend, -⟩ := h.exists_ended_of_answered hk hx
      have hnone := (hended o).mp hend
      rw [ho] at hnone
      cases hnone
    | abandoned => rfl

theorem Wanes.totals_of_gone (h : Wanes q more r) (ht : r.tasks = []) : r.totals = { q.totals with
    completed := q.totals.completed + q.count Stage.owesEnd
    failed := q.totals.failed + q.count Stage.owesFailure } := by
  have hcount (p : Stage → Bool) : r.count p = 0 := by simp [count, ht]
  have hcompleted := h.completed
  have hfailed := h.failed
  have hadmitted := h.admitted
  have hrejected := h.rejected
  rw [hcount] at hcompleted hfailed
  generalize r.totals = u at hcompleted hfailed hadmitted hrejected
  obtain ⟨a, b, c, d⟩ := u
  simp only at hcompleted hfailed hadmitted hrejected
  subst hadmitted hrejected
  rw [← hcompleted, ← hfailed]
  rfl

theorem count_of_no_outcome {p : Stage → Bool} (ho : ∀ t ∈ q.tasks, t.stage.outcome? = none)
    (hp : ∀ u : Stage, u.outcome? = none → p u = false) : q.count p = 0 :=
  List.countP_eq_zero.mpr fun t ht => by simp [hp _ (ho t ht)]

theorem lastAnswer_of_no_outcome (ho : ∀ t ∈ q.tasks, t.stage.outcome? = none) (id : Nat) :
    q.lastAnswer id = .plain 502 "Upstream error" := by
  rw [lastAnswer]
  cases hs : q.stage? id with
  | none => rfl
  | some u =>
    obtain ⟨t, ht, -, rfl⟩ := exists_task_of_stage? hs
    rw [Option.bind_some, ho t ht]
    rfl

theorem tasks_of_stuck (hd : Distinct q) (hr : q.isRunning = true)
    (hstuck : ∀ e, e.unwinds = true → q.step? e = none) : q.tasks = [] := by
  cases ht : q.tasks with
  | nil => rfl
  | cons t rest =>
    obtain ⟨e, r, he, hs⟩ := exists_unwinds hd hr (.inl (by simp [ht]))
    rw [hstuck e he] at hs
    cases hs

theorem shutDown_of_play? {limits : Config.Queue} {es : List Event} (h : Run attended (new limits) log q)
    (hc : 1 ≤ limits.maxConcurrency.toNat) (hr : q.isRunning = true) (he : ∀ e ∈ es, e.unwinds = true)
    (hp : q.play? es = some (more, r)) (hstuck : ∀ e, e.unwinds = true → r.step? e = none) : ShutDown q r := by
  have hrun : Run attended q more r := run_of_play? (fun e hm => attended_of_unwinds (he e hm)) hp
  have hall : Moves (new limits) (log ++ more) r := (h.trans hrun).moves
  have hs : Sound r := (h.trans hrun).sound (.new limits)
  obtain ⟨hw, hd, -⟩ := wanes_of_play? (h.sound (.new limits)).distinct he hp
  have hrr := hw.runtime.trans hr
  have htasks := tasks_of_stuck hd hrr hstuck
  have hinFlight : r.inFlight = 0 := by simp [hs.balanced.inFlight, count, htasks]
  have hpending : r.pending = [] := by
    apply hs.tight.resolve_right
    rw [hinFlight, slots, hall.limits]
    exact Nat.not_le_of_lt hc
  have hunresolved : ∀ k ∈ q.tickets, (q.poll k.id).1 = none → (r.poll k.id).1 = some (q.lastAnswer k.id) := by
    intro k hk hn
    have ht : Told log q := h.moves.told (.new limits)
    have hq : Ticketed log q := h.moves.ticketed (.new limits) (.new limits)
    obtain ⟨a, howed, hid⟩ := (hq.unresolved ht hk).mp hn
    have ha := howed.live
    have hm : a.id ∈ r.tickets.map Ticket.id := by
      rw [hw.tickets, hid]
      exact List.mem_map_of_mem hk
    have htr : Told (log ++ more) r := hall.told (.new limits)
    rw [← hid]
    exact htr.poll_of_gone (hall.known (.new limits) .nil) (hall.ticketed (.new limits) (.new limits)) ht hw.silent
      (by simp [live, htasks, hpending]) ha hm
  constructor
  case tasks => exact htasks
  case pending => exact hpending
  case inFlight => exact hinFlight
  case calls => exact hw.calls
  case totals => exact hw.totals_of_gone htasks
  case tickets => exact hw.tickets
  case resolved => exact fun id x => hw.poll
  case unresolved => exact hunresolved
  case uncounted =>
    intro ho
    have he : q.count Stage.owesEnd = 0 := count_of_no_outcome ho fun u hu => by cases u <;> first | rfl | cases hu
    have hf : q.count Stage.owesFailure = 0 := count_of_no_outcome ho fun u hu => by cases u <;> first | rfl | cases hu
    rw [hw.totals_of_gone htasks, he, hf]
    rfl
  case refused =>
    intro ho k hk hn
    rw [hunresolved k hk hn, lastAnswer_of_no_outcome ho]
  case stop =>
    intro hdrawn
    simp [step?, hrr, htasks, hw.drawn, hdrawn]

end Turnstile.Queue
