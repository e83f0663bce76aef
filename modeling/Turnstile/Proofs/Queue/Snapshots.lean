import Mathlib
import Turnstile.Proofs.Queue.Conservation
import Turnstile.Proofs.Queue.Reading

namespace Turnstile.Queue

variable {p q r : Queue} {a : Action} {e : Event} {log more : List Sign} {limits : Config.Queue} {s : Snapshot}
  {x : Reading}

/-- What stays as it is as long as the lock is held. -/
structure Retained (q r : Queue) : Prop where
  pending : r.pending = q.pending
  inFlight : r.inFlight = q.inFlight
  admitted : r.totals.admitted = q.totals.admitted

theorem Retained.start (id : Nat) (q : Queue) : Retained q ((q.dequeue id).start id) := by
  unfold Queue.start
  split <;> exact ⟨rfl, rfl, rfl⟩

theorem retained_of_act? {x : Option Snapshot} (hq : q.isFree = false) (h : q.act? a = some (r, x)) : Retained q r := by
  cases a with
  | draw | countRefusal | finish | lock =>
    simp only [act?, Option.ite_none_right_eq_some, Option.some.injEq, Prod.mk.injEq] at h
    obtain ⟨-, rfl, -⟩ := h
    exact ⟨rfl, rfl, rfl⟩
  | submit | vacate => simp [act?, hq] at h
  | start id =>
    simp only [act?, Option.ite_none_right_eq_some, Option.some.injEq, Prod.mk.injEq] at h
    obtain ⟨-, rfl, -⟩ := h
    exact .start id q
  | crash id =>
    simp only [act?, Option.ite_none_right_eq_some, Option.some.injEq, Prod.mk.injEq] at h
    obtain ⟨-, rfl, -⟩ := h
    obtain ⟨hp, hi, ha⟩ := Retained.start id q
    exact ⟨hp, hi, ha⟩
  | countEnd id | loadAdmitted | loadRejected | loadCompleted | loadFailed =>
    simp only [act?] at h
    split at h
    · cases h
      exact ⟨rfl, rfl, rfl⟩
    · cases h
  | spawn launcher | reply id =>
    simp only [act?] at h
    split at h
    · simp only [Option.ite_none_right_eq_some, Option.some.injEq, Prod.mk.injEq] at h
      obtain ⟨-, rfl, -⟩ := h
      exact ⟨rfl, rfl, rfl⟩
    · cases h
  | countFailure id =>
    simp only [act?] at h
    split at h
    · cases h
      rw [countFailure_eq]
      exact ⟨rfl, rfl, rfl⟩
    · cases h
  | release id =>
    simp only [act?, hq, Bool.and_false, Bool.false_eq_true, if_false] at h
    split at h <;> cases h
  | dropTicket id =>
    cases h
    exact ⟨rfl, rfl, rfl⟩

theorem retained_of_step (hq : q.isFree = false) (h : q.step? e = some r) : Retained q r := by
  cases e with
  | act a =>
    obtain ⟨⟨s, x⟩, ha, rfl⟩ := Option.map_eq_some_iff.mp h
    exact retained_of_act? hq ha
  | submitOutside job =>
    cases h
    exact ⟨rfl, rfl, rfl⟩
  | poll id =>
    cases h
    unfold poll
    split <;> exact ⟨rfl, rfl, rfl⟩
  | discard id =>
    simp only [step?, Option.ite_none_right_eq_some, Option.some.injEq] at h
    obtain ⟨-, rfl⟩ := h
    unfold discard
    split <;> exact ⟨rfl, rfl, rfl⟩
  | vacateOutside id => simp [step?, hq] at h
  | schedule | stop =>
    simp only [step?, Option.ite_none_right_eq_some, Option.some.injEq] at h
    exact h.2 ▸ ⟨rfl, rfl, rfl⟩
  | restart =>
    simp only [step?, Option.ite_none_left_eq_some, Option.some.injEq] at h
    exact h.2 ▸ ⟨rfl, rfl, rfl⟩

namespace Reading

/-- What has been read is so at this moment, but for two totals, which are as they have been at some moment since `p`. -/
def Covers (p q : Queue) : Reading → Prop
  | none => True
  | begun n f => n = q.pending.length ∧ f = q.inFlight
  | admitted n f a => n = q.pending.length ∧ f = q.inFlight ∧ a = q.totals.admitted
  | rejected n f a j => n = q.pending.length ∧ f = q.inFlight ∧ a = q.totals.admitted ∧
      p.totals.rejected ≤ j ∧ j ≤ q.totals.rejected
  | completed n f a j c => n = q.pending.length ∧ f = q.inFlight ∧ a = q.totals.admitted ∧
      p.totals.rejected ≤ j ∧ j ≤ q.totals.rejected ∧ p.totals.completed ≤ c ∧ c ≤ q.totals.completed

theorem Covers.of_retained (hc : x.Covers p q) (hu : Retained q r) (ht : q.totals.Le r.totals) : x.Covers p r := by
  obtain ⟨-, hj, he, -⟩ := ht
  cases x with
  | none => trivial
  | begun | admitted =>
    simp only [Covers, hu.pending, hu.inFlight, hu.admitted] at hc ⊢
    exact hc
  | rejected =>
    simp only [Covers, hu.pending, hu.inFlight, hu.admitted] at hc ⊢
    obtain ⟨hn, hf, ha, hlow, hhigh⟩ := hc
    exact ⟨hn, hf, ha, hlow, Nat.le_trans hhigh hj⟩
  | completed =>
    simp only [Covers, hu.pending, hu.inFlight, hu.admitted] at hc ⊢
    obtain ⟨hn, hf, ha, hlow, hhigh, hold, hnew⟩ := hc
    exact ⟨hn, hf, ha, hlow, Nat.le_trans hhigh hj, hold, Nat.le_trans hnew he⟩

theorem covers_of_lock {x : Option Snapshot} (p : Queue) (h : q.act? .lock = some (r, x)) :
    r.reading.Covers p r := by
  simp only [act?, Option.ite_none_right_eq_some, Option.some.injEq, Prod.mk.injEq] at h
  obtain ⟨-, rfl, -⟩ := h
  exact ⟨rfl, rfl⟩

theorem Covers.of_reads {x : Option Snapshot} (hp : p.totals.Le q.totals) (hc : q.reading.Covers p q)
    (ha : a.reads = true) (h : q.act? a = some (r, x)) : r.reading.Covers p r := by
  obtain ⟨-, hj, he, -⟩ := hp
  cases a with
  | lock => exact covers_of_lock p h
  | loadAdmitted =>
    simp only [act?] at h
    split at h
    · next hr =>
      cases h
      rw [hr] at hc
      exact ⟨hc.1, hc.2, rfl⟩
    · cases h
  | loadRejected =>
    simp only [act?] at h
    split at h
    · next hr =>
      cases h
      rw [hr] at hc
      obtain ⟨hn, hf, ha⟩ := hc
      exact ⟨hn, hf, ha, hj, Nat.le_refl _⟩
    · cases h
  | loadCompleted =>
    simp only [act?] at h
    split at h
    · next hr =>
      cases h
      rw [hr] at hc
      obtain ⟨hn, hf, ha, hlow, hhigh⟩ := hc
      exact ⟨hn, hf, ha, hlow, hhigh, he, Nat.le_refl _⟩
    · cases h
  | loadFailed =>
    simp only [act?] at h
    split at h
    · cases h
      trivial
    · cases h
  | _ => cases ha

theorem Covers.step (hp : p.totals.Le q.totals) (hc : q.reading.Covers p q) (h : q.step? e = some r) :
    r.reading.Covers p r := by
  by_cases he : ∀ a, e = .act a → a.reads = false
  · rw [reading_of_step he h]
    cases hq : q.isFree with
    | true =>
      have hn : q.reading = .none := of_decide_eq_true hq
      rw [hn]
      trivial
    | false => exact hc.of_retained (retained_of_step hq h) (moves_of_step h).totals_le
  · simp only [not_forall, Bool.not_eq_false] at he
    obtain ⟨a, rfl, hr⟩ := he
    obtain ⟨⟨s, x⟩, hact, rfl⟩ := Option.map_eq_some_iff.mp h
    exact hc.of_reads hp hr hact

theorem Covers.taken (hc : q.reading.Covers p q) (h : q.act? .loadFailed = some (r, some s)) :
    ∃ j c, q.reading = .completed q.pending.length q.inFlight q.totals.admitted j c ∧
      s = ⟨q.pending.length, q.inFlight, q.limits.maxConcurrency, q.limits.maxQueueSize,
        UInt64.ofNat q.totals.admitted, UInt64.ofNat j, UInt64.ofNat c, UInt64.ofNat q.totals.failed⟩ ∧
      p.totals.rejected ≤ j ∧ j ≤ q.totals.rejected ∧ p.totals.completed ≤ c ∧ c ≤ q.totals.completed := by
  simp only [act?] at h
  split at h
  · next hr =>
    cases h
    rw [hr] at hc
    obtain ⟨rfl, rfl, rfl, hlow, hhigh, hold, hnew⟩ := hc
    exact ⟨_, _, hr, rfl, hlow, hhigh, hold, hnew⟩
  · cases h

def Sufficient (log : List Sign) : Reading → Prop
  | completed n f a _ c => a ≤ n + f + c + lossesIn log .discarded + lossesIn log .crashed
  | _ => True

theorem Sufficient.append (hx : x.Sufficient log) (more : List Sign) : x.Sufficient (log ++ more) := by
  cases x with
  | completed n f a j c =>
    simp only [Sufficient, lossesIn, List.countP_append] at hx ⊢
    omega
  | _ => trivial

theorem Sufficient.step (hx : q.reading.Sufficient log) (hc : q.reading.Covers p q) (ht : Tallied log q)
    (h : q.step? e = some r) : r.reading.Sufficient (log ++ q.signs e) := by
  by_cases he : ∀ a, e = .act a → a.reads = false
  · rw [reading_of_step he h]
    exact hx.append _
  · simp only [not_forall, Bool.not_eq_false] at he
    obtain ⟨a, rfl, hr⟩ := he
    obtain ⟨⟨s, x⟩, hact, rfl⟩ := Option.map_eq_some_iff.mp h
    cases a with
    | lock =>
      simp only [act?, Option.ite_none_right_eq_some, Option.some.injEq, Prod.mk.injEq] at hact
      obtain ⟨-, rfl, -⟩ := hact
      trivial
    | loadCompleted =>
      simp only [act?] at hact
      split at hact
      · next hread =>
        cases hact
        rw [hread] at hc
        obtain ⟨rfl, rfl, rfl, -⟩ := hc
        have hall := ht.conserved
        refine Sufficient.append (x := .completed _ _ _ _ _) ?_ _
        change _ ≤ _
        omega
      · cases hact
    | loadAdmitted | loadRejected | loadFailed =>
      simp only [act?] at hact
      split at hact
      · cases hact
        trivial
      · cases hact
    | _ => cases hr

end Reading

def Stage.lacksFailure : Stage → Bool
  | counted o => o.isFailure
  | _ => false

theorem Leaves.lacksFailure_eq {u v : Stage} {how : Loss} (h : Leaves u how v) : u.lacksFailure = v.lacksFailure := by
  cases h <;> rfl

def Followed (q : Queue) : Prop := q.totals.failed + q.count Stage.lacksFailure ≤ q.totals.completed

theorem Followed.setStage {t : Task} {before after : List Task} {u : Stage} (hf : Followed q)
    (h : Stands q t before after) (hu : t.stage.lacksFailure = u.lacksFailure) : Followed (q.setStage t.id u) := by
  have hc := count_setStage h Stage.lacksFailure u
  rw [hu] at hc
  unfold Followed at hf ⊢
  rw [Nat.add_right_cancel hc]
  exact hf

theorem Followed.removeTask {t : Task} {before after : List Task} (hf : Followed q) (h : Stands q t before after) :
    Followed (q.removeTask t.id) :=
  Nat.le_trans (Nat.add_le_add_left (Nat.le.intro (count_removeTask h Stage.lacksFailure)) _) hf

theorem Move.followed (h : Move q more r) (hd : Distinct q) (hf : Followed q) : Followed r := by
  cases h with
  | unseen | noRuntime | draw | enter | refuse | countRefusal | dropTicket | take => exact hf
  | @grant a rest launcher =>
    have hc : (q.grant launcher a rest).count Stage.lacksFailure = q.count Stage.lacksFailure := by
      simp [count, Queue.grant, Stage.lacksFailure]
    rw [Followed, hc]
    exact hf
  | @spawn t launcher hm hs =>
    obtain ⟨before, after, h⟩ := hd.stands hm
    exact hf.setStage h (u := .spawned) (by rw [hs]; rfl)
  | @start t hm hs =>
    obtain ⟨before, after, h⟩ := hd.stands hm
    exact hf.setStage h (u := .calling) (by rw [hs]; rfl)
  | @finish t o hm hs =>
    obtain ⟨before, after, h⟩ := hd.stands hm
    exact hf.setStage h (u := .ended o) (by rw [hs]; rfl)
  | @free t o hm hs =>
    obtain ⟨before, after, h⟩ := hd.stands hm
    exact hf.setStage h (u := .released o) (by rw [hs]; rfl)
  | @countEnd t o hm hs =>
    obtain ⟨before, after, h⟩ := hd.stands hm
    have hc := count_setStage h Stage.lacksFailure (.counted o)
    have hone : o.isFailure.toNat ≤ 1 := Bool.toNat_le _
    rw [hs] at hc
    unfold Followed at hf ⊢
    change q.totals.failed + (q.setStage t.id (.counted o)).count Stage.lacksFailure ≤ q.totals.completed + 1
    change _ + 0 = _ + o.isFailure.toNat at hc
    omega
  | @countFailure t o hm hs =>
    obtain ⟨before, after, h⟩ := hd.stands hm
    have hc := count_setStage h Stage.lacksFailure (.recorded o)
    have hone : (if o.isFailure then 1 else 0) = o.isFailure.toNat := by cases o.isFailure <;> rfl
    rw [hs] at hc
    rw [countFailure_eq, hone]
    unfold Followed at hf ⊢
    change q.totals.failed + o.isFailure.toNat + (q.setStage t.id (.recorded o)).count Stage.lacksFailure ≤ _
    change _ + o.isFailure.toNat = _ + 0 at hc
    exact Nat.le_trans (by omega) hf
  | @abandon t how u hm hl =>
    obtain ⟨before, after, h⟩ := hd.stands hm
    exact hf.setStage h (u := u) hl.lacksFailure_eq
  | reply hm | depart hm =>
    obtain ⟨before, after, h⟩ := hd.stands hm
    exact hf.removeTask h

theorem Moves.followed (h : Moves q more r) (hd : Distinct q) (hf : Followed q) : Followed r := by
  induction h with
  | refl => exact hf
  | move hm m ih => exact m.followed (hm.distinct hd) ih

theorem Followed.failed_le (h : Followed q) : q.totals.failed ≤ q.totals.completed :=
  Nat.le_trans (Nat.le_add_right _ _) h

theorem Run.reading_covers {allowed : Queue → Event → Prop} (h : Run allowed (new limits) log q) :
    q.reading.Covers (new limits) q := by
  induction h with
  | refl => trivial
  | step h _ hs ih => exact ih.step h.moves.totals_le hs

theorem Run.reading_sufficient {allowed : Queue → Event → Prop} (h : Run allowed (new limits) log q) :
    q.reading.Sufficient log := by
  induction h with
  | refl => trivial
  | step h _ hs ih =>
    exact ih.step h.reading_covers (h.moves.tallied (distinct_new limits) (.new limits) (.new limits)) hs

/-- What a snapshot says when it is finished. The failures may be ahead of the ends, by no more than there are jobs in
flight, and only if ends have been counted since the ends were read. -/
structure Bounded (log : List Sign) (q : Queue) (s : Snapshot) : Prop where
  slots : s.inFlight ≤ s.maxConcurrency.toNat
  room : s.pending ≤ s.maxQueueSize.toNat
  completed : s.completed ≤ s.admitted
  jobs : s.admitted.toNat ≤
    s.pending + s.inFlight + s.completed.toNat + lossesIn log .discarded + lossesIn log .crashed
  jobs_of_lossless : (∀ id how, .lost id how ∉ log) → s.admitted.toNat ≤ s.pending + s.inFlight + s.completed.toNat
  counted_once : s.pending + s.inFlight + s.completed.toNat + lossesIn log .discarded + lossesIn log .crashed ≤
    s.admitted.toNat + s.inFlight
  failed : s.failed.toNat ≤ s.completed.toNat + s.inFlight
  failed_of_current : s.completed.toNat = q.totals.completed → s.failed ≤ s.completed

theorem lossesIn_eq_zero (h : ∀ id how, .lost id how ∉ log) (how : Loss) : lossesIn log how = 0 := by
  rw [lossesIn, List.countP_eq_zero]
  intro x hx hl
  cases x with
  | lost id how => exact h id how hx
  | _ => cases hl

theorem Reading.Covers.bounded (hc : q.reading.Covers p q) (hx : q.reading.Sufficient log) (ht : Tallied log q)
    (hb : Balanced q) (hf : Followed q) (hn : submissionsIn log < 2 ^ 64)
    (h : q.act? .loadFailed = some (r, some s)) : Bounded log q s := by
  obtain ⟨j, c, hread, rfl, -, -, -, hnew⟩ := hc.taken h
  rw [hread] at hx
  obtain ⟨hadmitted, -, hcompleted, hfailed⟩ := ht.totals_lt hb hn
  have ha : (UInt64.ofNat q.totals.admitted).toNat = q.totals.admitted := UInt64.toNat_ofNat_of_lt' hadmitted
  have he : (UInt64.ofNat c).toNat = c := UInt64.toNat_ofNat_of_lt' (Nat.lt_of_le_of_lt hnew hcompleted)
  have hl : (UInt64.ofNat q.totals.failed).toNat = q.totals.failed := UInt64.toNat_ofNat_of_lt' hfailed
  -- A job whose end is counted, or which got lost, is in flight until its slot is given back.
  have hheld : q.count Stage.isBooked ≤ q.inFlight := by
    rw [hb.inFlight]
    exact List.countP_mono_left fun u _ hu => by cases hs : u.stage <;> simp_all [Stage.isBooked, Stage.holdsSlot]
  have hall := ht.conserved
  have hfollowed := hf.failed_le
  change q.totals.admitted ≤ q.pending.length + q.inFlight + c + lossesIn log .discarded + lossesIn log .crashed at hx
  constructor
  case slots => exact hb.slots
  case room => exact hb.room
  case completed =>
    rw [UInt64.le_iff_toNat_le, ha, he]
    omega
  case jobs =>
    rw [ha, he]
    exact hx
  case jobs_of_lossless =>
    intro hlossless
    rw [ha, he]
    rw [lossesIn_eq_zero hlossless, lossesIn_eq_zero hlossless] at hx
    exact hx
  case counted_once =>
    rw [ha, he]
    change q.pending.length + q.inFlight + c + _ + _ ≤ q.totals.admitted + q.inFlight
    omega
  case failed =>
    rw [hl, he]
    change q.totals.failed ≤ c + q.inFlight
    omega
  case failed_of_current =>
    rw [he]
    rintro rfl
    rw [UInt64.le_iff_toNat_le, hl, he]
    exact hfollowed

/-- Every snapshot that is finished in a run keeps to the limits and accounts for the jobs; it may show more failures
than ends, since the failures are read last. Failures that are read before the ends would never be more. -/
theorem snapshots_bounded {allowed : Queue → Event → Prop} (h : Run allowed (new limits) log q)
    (hn : submissionsIn log < 2 ^ 64) :
    (∀ r s, q.act? .loadFailed = some (r, some s) → Bounded log q s) ∧
      ∀ more r, Run allowed q more r → q.totals.failed ≤ r.totals.completed := by
  have hd : Distinct q := h.moves.distinct (distinct_new limits)
  have hb : Balanced q := h.moves.balanced (distinct_new limits) (.new limits)
  have ht : Tallied log q := h.moves.tallied (distinct_new limits) (.new limits) (.new limits)
  have hf : Followed q := h.moves.followed (distinct_new limits) (Nat.le_refl 0)
  refine ⟨fun r s hs => h.reading_covers.bounded h.reading_sufficient ht hb hf hn hs, fun more r hr => ?_⟩
  exact Nat.le_trans hf.failed_le hr.moves.totals_le.2.2.1

def interrupted : List Event :=
  [.act .draw, .act (.submit 1 plainJob), .act (.spawn (.submission 1)), .act (.start 1), .act .lock,
    .act .loadAdmitted, .act .loadRejected, .act .loadCompleted, .act (.finish 1 .panic), .act (.countEnd 1),
    .act (.countFailure 1)]

theorem snapshots_bounded_interrupted :
    ∃ log q r s, (new ⟨1, 1⟩).play? interrupted = some (log, q) ∧ q.act? .loadFailed = some (r, some s) ∧
      s = ⟨0, 1, 1, 1, 1, 0, 0, 1⟩ ∧ Bounded log q s := by
  obtain ⟨log, q, r, s, h, hs, he, hn⟩ : ∃ log q r s, (new ⟨1, 1⟩).play? interrupted = some (log, q) ∧
      q.act? .loadFailed = some (r, some s) ∧ s = ⟨0, 1, 1, 1, 1, 0, 0, 1⟩ ∧ submissionsIn log < 2 ^ 64 :=
    ⟨_, _, _, _, rfl, rfl, rfl, by decide⟩
  have hrun : Run attended (new ⟨1, 1⟩) log q := run_of_play? (by simp [interrupted, attended]) h
  exact ⟨log, q, r, s, h, hs, he, (snapshots_bounded hrun hn).1 r s hs⟩

/-- There are snapshots with more failures than ends, though nothing has been shut down. -/
theorem failures_ahead :
    ¬∀ (limits : Config.Queue) (es : List Event) (log : List Sign) (q r : Queue) (s : Snapshot),
      (new limits).play? es = some (log, q) → (∀ e ∈ es, ∃ a, e = .act a) → submissionsIn log < 2 ^ 64 →
      q.act? .loadFailed = some (r, some s) → s.failed ≤ s.completed := by
  intro h
  have hacts : ∀ e ∈ interrupted, ∃ a, e = .act a := by simp [interrupted]
  exact absurd (h ⟨1, 1⟩ interrupted _ _ _ _ rfl hacts (by decide) rfl) (by decide)

end Turnstile.Queue
