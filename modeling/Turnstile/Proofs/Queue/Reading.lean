import Turnstile.Proofs.Queue.Watching

namespace Turnstile.Queue

variable {q r : Queue} {f : Queue → Queue} {a : Action} {log : List Sign} {limits : Config.Queue}

theorem Blind.reading (hf : Blind f) (q : Queue) : (f q).reading = q.reading := by
  have hq : f q = { f q with tickets := q.tickets, reading := q.reading } := hf q q.tickets q.reading
  rw [hq]

theorem reading_claim (launcher : Launcher) (q : Queue) : (q.claim launcher).reading = q.reading :=
  (blind_claim launcher).reading q

theorem reading_discard (id : Nat) (q : Queue) : (q.discard id).reading = q.reading := by
  unfold discard
  split <;> rfl

theorem reading_vacate (id : Nat) (q : Queue) : (q.vacate id).reading = q.reading := reading_claim _ (q.depart id)

/-- All steps but those of the snapshot itself leave it alone. -/
theorem reading_of_act? {x : Option Snapshot} (ha : a.reads = false) (h : q.act? a = some (r, x)) :
    r.reading = q.reading := by
  cases a with
  | lock | loadAdmitted | loadRejected | loadCompleted | loadFailed => cases ha
  | draw | countRefusal | finish =>
    simp only [act?, Option.ite_none_right_eq_some, Option.some.injEq, Prod.mk.injEq] at h
    obtain ⟨-, rfl, -⟩ := h
    rfl
  | submit id job =>
    simp only [act?, Option.ite_none_right_eq_some, Option.some.injEq, Prod.mk.injEq] at h
    obtain ⟨-, rfl, -⟩ := h
    unfold submitSection
    split
    · rfl
    · exact reading_claim _ (q.enter id job)
  | start id =>
    simp only [act?, Option.ite_none_right_eq_some, Option.some.injEq, Prod.mk.injEq] at h
    obtain ⟨-, rfl, -⟩ := h
    exact (blind_start id).reading (q.dequeue id)
  | crash id =>
    simp only [act?, Option.ite_none_right_eq_some, Option.some.injEq, Prod.mk.injEq] at h
    obtain ⟨-, rfl, -⟩ := h
    exact (blind_start id).reading (q.dequeue id)
  | vacate id =>
    simp only [act?, Option.ite_none_right_eq_some, Option.some.injEq, Prod.mk.injEq] at h
    obtain ⟨-, rfl, -⟩ := h
    exact reading_vacate id q
  | countEnd id =>
    simp only [act?] at h
    split at h
    · cases h
      rfl
    · cases h
  | spawn launcher | reply id =>
    simp only [act?] at h
    split at h
    · simp only [Option.ite_none_right_eq_some, Option.some.injEq, Prod.mk.injEq] at h
      obtain ⟨-, rfl, -⟩ := h
      rfl
    · cases h
  | countFailure id =>
    simp only [act?] at h
    split at h
    · cases h
      exact (blind_countFailure id _).reading q
    · cases h
  | release id =>
    simp only [act?] at h
    split at h
    · simp only [Option.ite_none_right_eq_some, Option.some.injEq, Prod.mk.injEq] at h
      obtain ⟨-, rfl, -⟩ := h
      exact reading_claim _ (q.free id _)
    · cases h
  | dropTicket id =>
    cases h
    rfl

theorem reading_of_step {e : Event} (he : ∀ a, e = .act a → a.reads = false) (h : q.step? e = some r) :
    r.reading = q.reading := by
  cases e with
  | act a =>
    obtain ⟨⟨s, x⟩, hact, rfl⟩ := Option.map_eq_some_iff.mp h
    exact reading_of_act? (he a rfl) hact
  | submitOutside job =>
    cases h
    rfl
  | poll id =>
    cases h
    unfold poll
    split <;> rfl
  | discard id =>
    simp only [step?, Option.ite_none_right_eq_some, Option.some.injEq] at h
    exact h.2 ▸ reading_discard id q
  | vacateOutside id =>
    simp only [step?, Option.ite_none_right_eq_some, Option.some.injEq] at h
    exact h.2 ▸ reading_vacate id { q with runtime := none }
  | schedule | stop =>
    simp only [step?, Option.ite_none_right_eq_some, Option.some.injEq] at h
    exact h.2 ▸ rfl
  | restart =>
    simp only [step?, Option.ite_none_left_eq_some, Option.some.injEq] at h
    exact h.2 ▸ rfl

/-- What has been read keeps to the limits, as far as it is what the lock guards. -/
def Reading.Within (limits : Config.Queue) : Reading → Prop
  | none => True
  | begun p f | admitted p f _ | rejected p f _ _ | completed p f _ _ _ =>
    p ≤ limits.maxQueueSize.toNat ∧ f ≤ limits.maxConcurrency.toNat

theorem Reading.Within.of_reads {x : Option Snapshot} (hw : q.reading.Within limits)
    (hp : q.pending.length ≤ limits.maxQueueSize.toNat) (hi : q.inFlight ≤ limits.maxConcurrency.toNat)
    (ha : a.reads = true) (h : q.act? a = some (r, x)) : r.reading.Within limits ∧
      ∀ s, x = some s → s.pending ≤ limits.maxQueueSize.toNat ∧ s.inFlight ≤ limits.maxConcurrency.toNat := by
  cases a with
  | lock =>
    simp only [act?, Option.ite_none_right_eq_some, Option.some.injEq, Prod.mk.injEq] at h
    obtain ⟨-, rfl, rfl⟩ := h
    exact ⟨⟨hp, hi⟩, by simp⟩
  | loadAdmitted | loadRejected | loadCompleted =>
    simp only [act?] at h
    split at h
    · next hr =>
      cases h
      rw [hr] at hw
      exact ⟨hw, by simp⟩
    · cases h
  | loadFailed =>
    simp only [act?] at h
    split at h
    · next hr =>
      cases h
      rw [hr] at hw
      refine ⟨trivial, fun s hs => ?_⟩
      cases hs
      exact hw
    · cases h
  | _ => cases ha

theorem Run.reading_within {allowed : Queue → Event → Prop} (h : Run allowed (new limits) log q) :
    q.reading.Within limits := by
  induction h with
  | refl => trivial
  | @step log q r e h ha hs ih =>
    by_cases he : ∀ a, e = .act a → a.reads = false
    · rw [reading_of_step he hs]
      exact ih
    · simp only [not_forall, Bool.not_eq_false] at he
      obtain ⟨a, rfl, hr⟩ := he
      obtain ⟨⟨s, x⟩, hact, rfl⟩ := Option.map_eq_some_iff.mp hs
      have hb := h.moves.balanced (distinct_new limits) (.new limits)
      have hl : q.limits = limits := h.moves.limits
      exact (ih.of_reads (hl ▸ hb.room) (hl ▸ hb.slots) hr hact).1

end Turnstile.Queue
