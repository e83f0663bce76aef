import Turnstile.Metrics
import Turnstile.Proofs.Queue.Delivery
import Turnstile.Proofs.Queue.Handout

namespace Turnstile.Queue

variable {q r : Queue} {log more : List Sign} {id : Nat}

/-- The counters among the measures count what the queue itself keeps count of. -/
structure Counted (q : Queue) : Prop where
  rejected : q.measures.rejected = q.totals.rejected
  failed : q.measures.failed = q.totals.failed
  waits : q.measures.waits = q.calls.length

namespace Counted

theorem new (limits : Config.Queue) : Counted (Queue.new limits) := ⟨rfl, rfl, rfl⟩

theorem claim (h : Counted q) (launcher : Launcher) : Counted (q.claim launcher) := by
  unfold Queue.claim
  split
  · exact ⟨h.rejected, h.failed, h.waits⟩
  · exact h

theorem startTask (h : Counted q) (t : Task) : Counted (q.startTask t) where
  rejected := h.rejected
  failed := h.failed
  waits := by
    change q.measures.waits + 1 = (q.calls ++ [t.admitted]).length
    rw [h.waits, List.length_append, List.length_singleton]

theorem countFailure (h : Counted q) (id : Nat) (o : Outcome) : Counted (q.countFailure id o) := by
  rw [countFailure_eq]
  exact ⟨h.rejected, congrArg (· + _) h.failed, h.waits⟩

theorem abandon (h : Counted q) (id : Nat) (s : Stage) : Counted (q.abandon id s) := ⟨h.rejected, h.failed, h.waits⟩

theorem discard (h : Counted q) (id : Nat) : Counted (q.discard id) := by
  unfold Queue.discard
  split
  · exact h.abandon _ _
  · exact h.abandon _ _
  · exact h

theorem vacate (h : Counted q) (id : Nat) : Counted (q.vacate id) := by
  have hd : Counted (q.depart id) := ⟨h.rejected, h.failed, h.waits⟩
  exact hd.claim _

end Counted

theorem Acts.counted {a : Action} (h : Acts q a r) (hc : Counted q) : Counted r := by
  have hsame : ∀ {p : Queue}, p.measures = q.measures → p.totals = q.totals → p.calls = q.calls → Counted p :=
    fun hm ht hl => ⟨by rw [hm, ht, hc.rejected], by rw [hm, ht, hc.failed], by rw [hm, hl, hc.waits]⟩
  cases h with
  | draw | spawn | finish | reply | dropTicket | observe => exact hsame rfl rfl rfl
  | countEnd => exact ⟨hc.rejected, hc.failed, hc.waits⟩
  | @submit id job =>
    unfold submitSection
    split
    · exact hsame rfl rfl rfl
    · exact Counted.claim (q := q.enter id job) ⟨hc.rejected, hc.failed, hc.waits⟩ _
  | countRefusal => exact ⟨congrArg (· + 1) hc.rejected, hc.failed, hc.waits⟩
  | @start t =>
    have hd : Counted (q.dequeue t.id) := hsame rfl rfl rfl
    exact hd.startTask t
  | @crash t =>
    have hd : Counted (q.dequeue t.id) := hsame rfl rfl rfl
    exact (hd.startTask t).abandon _ _
  | vacate => exact hc.vacate _
  | countFailure => exact hc.countFailure _ _
  | @release t o =>
    have hf : Counted (q.free t.id o) := hsame rfl rfl rfl
    exact hf.claim _

theorem counted_of_step {e : Event} (hc : Counted q) (h : q.step? e = some r) : Counted r := by
  cases e with
  | act a =>
    obtain ⟨⟨s, x⟩, hact, rfl⟩ := Option.map_eq_some_iff.mp h
    exact (acts_of_act? hact).counted hc
  | submitOutside job =>
    cases h
    rw [outside_submit]
    exact hc
  | poll id =>
    cases h
    cases hr : (q.ticket? id).bind TicketState.response? <;> simp only [poll, hr] <;>
      exact ⟨hc.rejected, hc.failed, hc.waits⟩
  | discard id =>
    simp only [step?, Option.ite_none_right_eq_some, Option.some.injEq] at h
    exact h.2 ▸ hc.discard id
  | vacateOutside id =>
    simp only [step?, Option.ite_none_right_eq_some, Option.some.injEq] at h
    have hstopped : Counted { q with runtime := none } := ⟨hc.rejected, hc.failed, hc.waits⟩
    have hd := hstopped.vacate id
    exact h.2 ▸ ⟨hd.rejected, hd.failed, hd.waits⟩
  | schedule | stop =>
    simp only [step?, Option.ite_none_right_eq_some, Option.some.injEq] at h
    exact h.2 ▸ ⟨hc.rejected, hc.failed, hc.waits⟩
  | restart =>
    simp only [step?, Option.ite_none_left_eq_some, Option.some.injEq] at h
    exact h.2 ▸ ⟨hc.rejected, hc.failed, hc.waits⟩

theorem Run.counted {allowed : Queue → Event → Prop} {limits : Config.Queue} (h : Run allowed (new limits) log q) :
    Counted q := by
  induction h with
  | refl => exact .new limits
  | step _ _ hs ih => exact counted_of_step ih hs

/-- What a step does to the gauges: it leaves them alone with everything that they show, or it sets them, and then there
is or was a job to show. -/
inductive Gauging (q : Queue) (more : List Sign) (r : Queue) : Prop where
  | kept : admissionsIn more = [] → r.measures.gauges = q.measures.gauges → r.pending = q.pending →
      r.inFlight = q.inFlight → Gauging q more r
  | set : q.tasks ≠ [] ∨ admissionsIn more ≠ [] → r.measures.gauges = some (r.pending.length, r.inFlight) →
      Gauging q more r

theorem gauges_claim (h : q.isRunning = true) (launcher : Launcher) :
    (q.claim launcher).measures.gauges = some ((q.claim launcher).pending.length, (q.claim launcher).inFlight) := by
  simp only [claim, h, if_true, List.length_drop]

theorem Acts.gauging {a : Action} (h : Acts q a r) : Gauging q (q.signs (.act a)) r := by
  have hnone (ha : ∀ id job, a ≠ .submit id job) : admissionsIn (q.signs (.act a)) = [] :=
    admissionsIn_signs fun id job he => ha id job (Event.act.inj he)
  cases h with
  | @submit id job hr =>
    simp only [signs, submitSection]
    split
    · exact .kept rfl rfl rfl rfl
    · exact .set (.inr (List.cons_ne_nil _ _)) (gauges_claim (q := q.enter id job) hr _)
  | draw | countRefusal | spawn | start | crash | finish | countEnd | reply | dropTicket =>
    exact .kept (hnone (by simp)) rfl rfl rfl
  | countFailure =>
    rw [countFailure_eq]
    exact .kept (hnone (by simp)) rfl rfl rfl
  | observe reading hs => exact .kept (by rw [hs]; rfl) rfl rfl rfl
  | @vacate t hr hf =>
    have hrun : (q.depart t.id).isRunning = true := hr
    exact .set (.inl (List.ne_nil_of_mem (task?_eq_some hf).1)) (gauges_claim hrun _)
  | @release t o hr ht =>
    have hrun : (q.free t.id o).isRunning = true := hr
    exact .set (.inl (List.ne_nil_of_mem ht)) (gauges_claim hrun _)

theorem gauging_of_step {e : Event} (ha : attended q e) (h : q.step? e = some r) : Gauging q (q.signs e) r := by
  cases e with
  | act a =>
    obtain ⟨⟨s, x⟩, hact, rfl⟩ := Option.map_eq_some_iff.mp h
    exact (acts_of_act? hact).gauging
  | submitOutside job =>
    cases h
    rw [outside_submit]
    exact .kept (admissionsIn_signs (by simp)) rfl rfl rfl
  | poll id =>
    cases h
    cases hr : (q.ticket? id).bind TicketState.response? <;> simp only [poll, hr] <;>
      exact .kept (admissionsIn_signs (by simp)) rfl rfl rfl
  | discard id =>
    simp only [step?, Option.ite_none_right_eq_some, Option.some.injEq] at h
    obtain ⟨hi, rfl⟩ := h
    obtain ⟨t, ht, hi⟩ := isIdle_iff.mp hi
    obtain ⟨s, -, he⟩ := discard_eq ht hi
    rw [he]
    exact .kept (admissionsIn_signs (by simp)) rfl rfl rfl
  | vacateOutside id => exact absurd rfl (ha id)
  | schedule | stop =>
    simp only [step?, Option.ite_none_right_eq_some, Option.some.injEq] at h
    exact h.2 ▸ .kept rfl rfl rfl rfl
  | restart =>
    simp only [step?, Option.ite_none_left_eq_some, Option.some.injEq] at h
    exact h.2 ▸ .kept rfl rfl rfl rfl

/-- The gauges show nothing before the first admission, and the state of the queue ever after. -/
def Gauged (log : List Sign) (q : Queue) : Prop :=
  q.measures.gauges = if admissionsIn log = [] then none else some (q.pending.length, q.inFlight)

theorem Gauging.gauged (h : Gauging q more r) (ht : Told log q) (hg : Gauged log q) : Gauged (log ++ more) r := by
  cases h with
  | kept ha hk hp hi =>
    rw [Gauged, admissionsIn_append, ha, List.append_nil, hk, hp, hi]
    exact hg
  | set hs hk =>
    have hne : admissionsIn (log ++ more) ≠ [] := by
      rw [admissionsIn_append]
      obtain hs | hs := hs
      · obtain ⟨t, hm⟩ := List.exists_mem_of_ne_nil _ hs
        have ha : t.admitted ∈ admissionsIn log := mem_admissionsIn.mpr (ht.mem_live (mem_live_of_task hm))
        exact List.append_ne_nil_of_left_ne_nil (List.ne_nil_of_mem ha) _
      · exact List.append_ne_nil_of_right_ne_nil _ hs
    rw [Gauged, if_neg hne]
    exact hk

theorem Run.gauged {limits : Config.Queue} (h : Run attended (new limits) log q) : Gauged log q := by
  induction h with
  | refl => rfl
  | step h ha hs ih => exact (gauging_of_step ha hs).gauged (h.moves.told (.new limits)) ih

/-- The measures are right in every state: from the first admission on the gauges show how many jobs wait and how many
are in flight, refusals and failures are those of the totals, and a wait is measured for every call that has started and
for no other job. That is also what is exposed. -/
theorem measures_exact {limits : Config.Queue} (h : Run attended (new limits) log q) :
    q.measures = {
      gauges := if admissionsIn log = [] then none else some (q.pending.length, q.inFlight)
      rejected := q.totals.rejected
      failed := q.totals.failed
      waits := (callsIn log).length } ∧
    UInt64.ofNat q.measures.rejected = q.snapshot.rejected ∧ UInt64.ofNat q.measures.failed = q.snapshot.failed ∧
    Metrics.queueLines q.measures =
      (if admissionsIn log = [] then []
        else [Metrics.line "proxy_queue_pending" q.pending.length, Metrics.line "proxy_queue_in_flight" q.inFlight]) ++
      Metrics.touched "proxy_queue_rejected_total" q.totals.rejected ++
      Metrics.touched "proxy_upstream_failures_total" q.totals.failed ++
      Metrics.touched "proxy_queue_wait_seconds_count" (callsIn log).length := by
  have hc := h.counted
  have hcalls : q.calls = callsIn log := h.moves.calls
  have hw : q.measures.waits = (callsIn log).length := hcalls ▸ hc.waits
  have hg : q.measures.gauges = if admissionsIn log = [] then none else some (q.pending.length, q.inFlight) := h.gauged
  have hm : q.measures = ⟨if admissionsIn log = [] then none else some (q.pending.length, q.inFlight),
      q.totals.rejected, q.totals.failed, (callsIn log).length⟩ := by
    rw [← hc.rejected, ← hc.failed, ← hw, ← hg]
  refine ⟨hm, congrArg _ hc.rejected, congrArg _ hc.failed, ?_⟩
  rw [hm]
  by_cases ha : admissionsIn log = [] <;> simp [Metrics.queueLines, ha]

theorem measures_exact_turningAway :
    ∃ log q, (new ⟨1, 1⟩).play? turningAway = some (log, q) ∧ q.measures = ⟨some (1, 1), 1, 1, 2⟩ ∧
      UInt64.ofNat q.measures.rejected = q.snapshot.rejected ∧
      Metrics.queueLines q.measures =
        [Metrics.line "proxy_queue_pending" 1, Metrics.line "proxy_queue_in_flight" 1,
          Metrics.line "proxy_queue_rejected_total" 1, Metrics.line "proxy_upstream_failures_total" 1,
          Metrics.line "proxy_queue_wait_seconds_count" 2] := by
  obtain ⟨log, q, h, hq, ht, hc⟩ : ∃ log q, (new ⟨1, 1⟩).play? turningAway = some (log, q) ∧
      (q.pending.length = 1 ∧ q.inFlight = 1) ∧ (q.totals.rejected = 1 ∧ q.totals.failed = 1) ∧
      admissionsIn log ≠ [] ∧ (callsIn log).length = 2 := ⟨_, _, rfl, ⟨rfl, rfl⟩, ⟨rfl, rfl⟩, by decide, rfl⟩
  have hrun : Run attended (new ⟨1, 1⟩) log q := run_of_play? attended_turningAway h
  obtain ⟨hm, hr, -, hl⟩ := measures_exact hrun
  rw [if_neg hc.1, hq.1, hq.2, ht.1, ht.2, hc.2] at hm hl
  exact ⟨log, q, h, hm, hr, hl⟩

end Turnstile.Queue
