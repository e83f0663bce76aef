import Turnstile.Proofs.Queue.Line

namespace Turnstile.Queue

variable {q r : Queue} {log : List Sign} {id : Nat}

theorem isRunning_abandon (id : Nat) (s : Stage) (q : Queue) : (q.abandon id s).isRunning = q.isRunning := by
  simp [isRunning, abandon, dequeue, setStage, resolve]

theorem isRunning_discard (id : Nat) (q : Queue) : (q.discard id).isRunning = q.isRunning := by
  unfold discard
  split
  · exact isRunning_abandon id _ q
  · exact isRunning_abandon id _ q
  · rfl

namespace Tight

theorem congr (h : Tight q) (hp : r.pending = q.pending) (hi : r.inFlight = q.inFlight) (hl : r.limits = q.limits) :
    Tight r := by
  simp only [Tight, slots, hp, hi, hl]
  exact h

theorem claim (h : q.isRunning = true) (launcher : Launcher) : Tight (q.claim launcher) := by
  have hl : (q.claim launcher).slots = q.slots := by
    simp only [slots, (moves_claim launcher q).limits]
  rw [Tight, hl]
  exact pending_claim_eq_nil_or h launcher

theorem abandon (h : Tight q) (s : Stage) : Tight (q.abandon id s) := h.congr rfl rfl rfl

theorem discard (h : Tight q) : Tight (q.discard id) := by
  unfold Queue.discard
  split
  · exact h.abandon _
  · exact h.abandon _
  · exact h

theorem submitSection {job : Job} (h : Tight q) (hr : q.isRunning = true) : Tight (q.submitSection id job).2 := by
  unfold Queue.submitSection
  split
  · exact h.congr rfl rfl rfl
  · exact claim (q := q.enter id job) hr _

end Tight

theorem Acts.tight {a : Action} (h : Acts q a r) (ht : Tight q) : Tight r := by
  cases h with
  | submit job hr => exact ht.submitSection hr
  | @vacate t hr => exact .claim (q := q.depart t.id) hr _
  | @release t o hr => exact .claim (q := q.free t.id o) hr _
  | countFailure =>
    rw [countFailure_eq]
    exact ht.congr rfl rfl rfl
  | draw | countRefusal | spawn | start | crash | finish | countEnd | reply | dropTicket | observe =>
    exact ht.congr rfl rfl rfl

/-- While the runtime keeps its promise, every step that could leave a free slot beside a waiting job hands it out. -/
theorem tight_of_step {e : Event} (ha : attended q e) (ht : Tight q) (h : q.step? e = some r) : Tight r := by
  cases e with
  | act a =>
    obtain ⟨⟨s, x⟩, hact, rfl⟩ := Option.map_eq_some_iff.mp h
    exact (acts_of_act? hact).tight ht
  | submitOutside job =>
    cases h
    rw [outside_submit]
    exact ht
  | poll id =>
    cases h
    cases hr : (q.ticket? id).bind TicketState.response? <;> simp only [poll, hr] <;> exact ht.congr rfl rfl rfl
  | discard id =>
    simp only [step?, Option.ite_none_right_eq_some, Option.some.injEq] at h
    obtain ⟨-, rfl⟩ := h
    exact ht.discard
  | vacateOutside id => exact absurd rfl (ha id)
  | schedule x =>
    simp only [step?, Option.ite_none_right_eq_some, Option.some.injEq] at h
    obtain ⟨-, rfl⟩ := h
    exact ht.congr rfl rfl rfl
  | stop =>
    simp only [step?, Option.ite_none_right_eq_some, Option.some.injEq] at h
    obtain ⟨-, rfl⟩ := h
    exact ht.congr rfl rfl rfl
  | restart =>
    simp only [step?, Option.ite_none_left_eq_some, Option.some.injEq] at h
    obtain ⟨-, rfl⟩ := h
    exact ht.congr rfl rfl rfl

theorem refused_notMem_signs {e : Event} {pending limit : Nat} (he : ∀ i job, e ≠ .act (.submit i job)) :
    .refused id pending limit ∉ q.signs e := by
  unfold signs
  split
  case h_2 => exact absurd rfl (he _ _)
  case h_9 => split <;> simp
  case h_11 => simp [submit, isRunning, Sign.ofSubmission]
  all_goals simp [callSigns]

theorem follows_of_step {e : Event} (ht : Told log q) (hb : Balanced q) (hq : Tight q) (h : q.step? e = some r) :
    (line log q).follow? (q.signs e) = some (line (log ++ q.signs e) r) := by
  by_cases he : ∀ id job, e ≠ .act (.submit id job)
  · exact (moves_of_step h).follows ht hb fun _ _ _ => refused_notMem_signs he
  · obtain ⟨id, job, rfl⟩ : ∃ id job, e = .act (.submit id job) := by simpa using he
    simp only [step?, act?, Option.map_eq_some_iff, Option.ite_none_right_eq_some, Option.some.injEq, Bool.and_eq_true,
      List.contains_iff_mem] at h
    obtain ⟨-, ⟨⟨⟨-, hid⟩, -⟩, rfl⟩, rfl⟩ := h
    simp only [signs, submitSection]
    split
    · next hp => exact (Move.refuse hid hp).follows ht hb fun _ _ _ _ => hq
    · next hp =>
      have hm : Moves q [.admitted ⟨id, job⟩] (q.accept id job) :=
        (Moves.single (.enter hid (Nat.lt_of_not_le hp))).snoc (moves_claim _ _)
      exact hm.follows ht hb (by simp [Sign.ofSubmission])

/-- What every step keeps while the runtime keeps its promise. -/
structure Sound (q : Queue) : Prop where
  distinct : Distinct q
  balanced : Balanced q
  tight : Tight q

theorem Sound.new (limits : Config.Queue) : Sound (Queue.new limits) :=
  ⟨distinct_new limits, .new limits, .inl rfl⟩

theorem Run.sound (h : Run attended q log r) (hq : Sound q) : Sound r := by
  induction h with
  | refl => exact hq
  | step _ ha hs ih =>
    have hm := moves_of_step hs
    exact ⟨hm.distinct ih.distinct, hm.balanced ih.distinct ih.balanced, tight_of_step ha ih.tight hs⟩

theorem Run.follows {limits : Config.Queue} (h : Run attended (new limits) log q) :
    (Line.empty limits).follow? log = some (line log q) := by
  induction h with
  | refl => rfl
  | step h ha hs ih =>
    have hq := h.sound (.new limits)
    rw [Line.follow?_append, ih]
    exact follows_of_step (h.moves.told (.new limits)) hq.balanced hq.tight hs

end Turnstile.Queue
