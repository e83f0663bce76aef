import Turnstile.Proofs.Queue.Roster

namespace Turnstile.Queue

variable {q r : Queue} {t : Task} {before after : List Task} {log : List Sign}

def count (p : Stage → Bool) (q : Queue) : Nat := q.tasks.countP (p ·.stage)

theorem count_setStage (h : Stands q t before after) (p : Stage → Bool) (s : Stage) :
    (q.setStage t.id s).count p + (p t.stage).toNat = q.count p + (p s).toNat := by
  simp only [count, h.setStage, h.tasks, List.countP_append, List.countP_cons]
  cases p t.stage <;> cases p s <;> simp <;> omega

theorem count_removeTask (h : Stands q t before after) (p : Stage → Bool) :
    (q.removeTask t.id).count p + (p t.stage).toNat = q.count p := by
  simp only [count, h.removeTask, h.tasks, List.countP_append, List.countP_cons]
  cases p t.stage with
  | false => simp
  | true =>
    simp
    omega

theorem length_holding (q : Queue) : q.holding.length = q.count Stage.holdsSlot :=
  List.countP_eq_length_filter.symm

theorem length_running_le (q : Queue) : q.running.length ≤ q.holding.length := by
  simp only [running, holding, ← List.countP_eq_length_filter]
  apply List.countP_mono_left
  intro t _ ht
  rw [of_decide_eq_true ht]
  rfl

/-- The books of the slots are right, and no limit is overstepped. -/
structure Balanced (q : Queue) : Prop where
  inFlight : q.inFlight = q.count Stage.holdsSlot
  slots : q.inFlight ≤ q.slots
  room : q.pending.length ≤ q.room
  peak : q.peak ≤ q.slots

namespace Balanced

theorem new (limits : Config.Queue) : Balanced (Queue.new limits) := by
  constructor <;> simp [Queue.new, count]

theorem setStage {s : Stage} (hb : Balanced q) (h : Stands q t before after)
    (hs : t.stage.holdsSlot = s.holdsSlot) : Balanced (q.setStage t.id s) := by
  have hc := count_setStage h Stage.holdsSlot s
  rw [hs] at hc
  exact ⟨hb.inFlight.trans (Nat.add_right_cancel hc).symm, hb.slots, hb.room, hb.peak⟩

theorem inFlight_pos (hb : Balanced q) (ht : t ∈ q.tasks) (hs : t.stage.holdsSlot = true) : 1 ≤ q.inFlight := by
  rw [hb.inFlight, count, Nat.one_le_iff_ne_zero, ← Nat.pos_iff_ne_zero, List.countP_pos_iff]
  exact ⟨t, ht, hs⟩

end Balanced

theorem Move.balanced (h : Move q log r) (hd : Distinct q) (hb : Balanced q) : Balanced r := by
  cases h with
  | unseen | noRuntime | draw | refuse | countRefusal | dropTicket | take =>
    exact ⟨hb.inFlight, hb.slots, hb.room, hb.peak⟩
  | enter _ hp =>
    refine ⟨hb.inFlight, hb.slots, ?_, hb.peak⟩
    change (q.pending ++ [_]).length ≤ q.room
    rw [List.length_append]
    exact hp
  | grant launcher hp hs =>
    have hr := hb.room
    rw [hp, List.length_cons] at hr
    refine ⟨?_, hs, Nat.le_of_succ_le hr, hb.peak⟩
    change q.inFlight + 1 = (q.tasks ++ [_]).countP _
    rw [List.countP_append, hb.inFlight]
    rfl
  | spawn ht hs =>
    obtain ⟨before, after, h⟩ := hd.stands ht
    exact hb.setStage h (by rw [hs]; rfl)
  | @start t ht hs =>
    obtain ⟨before, after, h⟩ := hd.stands ht
    have hc : Balanced (q.setStage t.id .calling) := hb.setStage h (by rw [hs]; rfl)
    have hr := length_running_le (q.setStage t.id .calling)
    rw [length_holding, ← hc.inFlight] at hr
    have hp : (q.startTask t).peak ≤ q.slots := Nat.max_le.mpr ⟨hb.peak, Nat.le_trans hr hb.slots⟩
    exact ⟨hc.inFlight, hc.slots, hc.room, hp⟩
  | finish o ht hs =>
    obtain ⟨before, after, h⟩ := hd.stands ht
    exact hb.setStage h (by rw [hs]; rfl)
  | @countEnd t o ht hs =>
    obtain ⟨before, after, h⟩ := hd.stands ht
    have hc := hb.setStage h (s := .counted o) (by rw [hs]; rfl)
    exact ⟨hc.inFlight, hc.slots, hc.room, hc.peak⟩
  | @countFailure t o ht hs =>
    obtain ⟨before, after, h⟩ := hd.stands ht
    have hc := hb.setStage h (s := .recorded o) (by rw [hs]; rfl)
    rw [countFailure_eq]
    exact ⟨hc.inFlight, hc.slots, hc.room, hc.peak⟩
  | @free t o ht hs =>
    obtain ⟨before, after, h⟩ := hd.stands ht
    have hc := count_setStage h Stage.holdsSlot (.released o)
    have hi := hb.inFlight
    rw [hs] at hc
    refine ⟨?_, Nat.le_trans (Nat.sub_le _ _) hb.slots, hb.room, hb.peak⟩
    change q.inFlight - 1 = (q.setStage t.id (.released o)).count Stage.holdsSlot
    simp only [Stage.holdsSlot, Bool.toNat_true, Bool.toNat_false] at hc
    omega
  | @reply t o ht hs =>
    obtain ⟨before, after, h⟩ := hd.stands ht
    have hc := count_removeTask h Stage.holdsSlot
    rw [hs] at hc
    exact ⟨hb.inFlight.trans hc.symm, hb.slots, hb.room, hb.peak⟩
  | abandon ht hl =>
    obtain ⟨before, after, h⟩ := hd.stands ht
    have hc := hb.setStage h hl.holdsSlot
    exact ⟨hc.inFlight, hc.slots, hc.room, hc.peak⟩
  | @depart t ht hl =>
    obtain ⟨before, after, h⟩ := hd.stands ht
    have hc := count_removeTask h Stage.holdsSlot
    rw [holdsSlot_of_isLeaving hl, ← hb.inFlight] at hc
    refine ⟨?_, Nat.le_trans (Nat.sub_le _ _) hb.slots, hb.room, hb.peak⟩
    exact Nat.sub_eq_of_eq_add hc.symm

theorem Moves.balanced (h : Moves q log r) (hd : Distinct q) (hb : Balanced q) : Balanced r := by
  induction h with
  | refl => exact hb
  | move hm m ih => exact m.balanced (hm.distinct hd) ih

theorem Move.limits (h : Move q log r) : r.limits = q.limits := by
  cases h with
  | countFailure => rw [countFailure_eq]; rfl
  | _ => rfl

theorem Moves.limits (h : Moves q log r) : r.limits = q.limits := by
  induction h with
  | refl => rfl
  | move _ m ih => exact m.limits.trans ih

/-- The steps in which a slot is given back: at the end of a task, or because the task goes away. -/
def Event.givesBack : Event → Bool
  | .act (.release _) | .act (.vacate _) | .vacateOutside _ => true
  | _ => false

theorem exists_holding_of_givesBack {e : Event} (he : e.givesBack = true) (h : q.step? e = some r) :
    ∃ t ∈ q.tasks, t.stage.holdsSlot = true := by
  unfold Event.givesBack at he
  split at he
  · simp only [step?, act?, Option.map_eq_some_iff] at h
    obtain ⟨x, h, -⟩ := h
    split at h
    · next hs =>
      obtain ⟨t, ht, -, hs⟩ := exists_task_of_stage? hs
      exact ⟨t, ht, by rw [hs]; rfl⟩
    · cases h
  · simp only [step?, act?, Option.map_eq_some_iff, Option.ite_none_right_eq_some, Bool.and_eq_true] at h
    obtain ⟨x, ⟨⟨⟨-, hl⟩, -⟩, -⟩, -⟩ := h
    obtain ⟨t, ht, hl⟩ := isLeaving_iff.mp hl
    exact ⟨t, (task?_eq_some ht).1, holdsSlot_of_isLeaving hl⟩
  · simp only [step?, Option.ite_none_right_eq_some, Bool.and_eq_true] at h
    obtain ⟨t, ht, hl⟩ := isLeaving_iff.mp h.1.1.1
    exact ⟨t, (task?_eq_some ht).1, holdsSlot_of_isLeaving hl⟩
  · cases he

/-- Whatever happens to a queue, and in whichever order: the number in flight is the number of slots that are held, it
stays within the limit, and so do the waiting jobs and the calls. A slot that is given back is always one that was
counted. -/
theorem slots_accounted {allowed : Queue → Event → Prop} {limits : Config.Queue}
    (h : Run allowed (new limits) log q) :
    q.inFlight = q.holding.length ∧ q.inFlight ≤ limits.maxConcurrency.toNat ∧
      q.pending.length ≤ limits.maxQueueSize.toNat ∧ q.running.length ≤ q.inFlight ∧
      q.running.length ≤ limits.maxConcurrency.toNat ∧ q.peak ≤ limits.maxConcurrency.toNat ∧
      ∀ e r, e.givesBack = true → q.step? e = some r → 1 ≤ q.inFlight := by
  have hb := h.moves.balanced (distinct_new limits) (.new limits)
  have hl : q.limits = limits := h.moves.limits
  have hi : q.inFlight = q.holding.length := hb.inFlight.trans (length_holding q).symm
  have hr : q.running.length ≤ q.inFlight := hi ▸ length_running_le q
  have hs : q.inFlight ≤ limits.maxConcurrency.toNat := hl ▸ hb.slots
  refine ⟨hi, hs, hl ▸ hb.room, hr, Nat.le_trans hr hs, hl ▸ hb.peak, fun e r he hstep => ?_⟩
  obtain ⟨t, ht, hh⟩ := exists_holding_of_givesBack he hstep
  exact hb.inFlight_pos ht hh

theorem slots_accounted_overtaking :
    ∃ log q, (new ⟨1, 1⟩).play? overtaking = some (log, q) ∧ q.running.length = 1 ∧
      q.inFlight = q.holding.length ∧ q.inFlight ≤ 1 ∧ q.pending.length ≤ 1 ∧ q.running.length ≤ q.inFlight ∧
      q.running.length ≤ 1 ∧ q.peak ≤ 1 ∧ ∀ e r, e.givesBack = true → q.step? e = some r → 1 ≤ q.inFlight := by
  obtain ⟨log, q, h, hr⟩ : ∃ log q, (new ⟨1, 1⟩).play? overtaking = some (log, q) ∧ q.running.length = 1 :=
    ⟨_, _, rfl, rfl⟩
  have hrun : Run attended (new ⟨1, 1⟩) log q := run_of_play? attended_overtaking h
  exact ⟨log, q, h, hr, slots_accounted hrun⟩

end Turnstile.Queue
