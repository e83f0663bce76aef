import Mathlib
import Turnstile.Proofs.Queue.Fifo
import Turnstile.Proofs.Queue.Launch

namespace Turnstile.Queue

variable {q r : Queue} {t : Task} {before after : List Task} {log more : List Sign}

def Sign.isRefusal : Sign → Bool
  | refused _ _ _ => true
  | _ => false

def Sign.isEnd : Sign → Bool
  | ended _ _ => true
  | _ => false

def Sign.isFailedEnd : Sign → Bool
  | ended _ o => o.isFailure
  | _ => false

def Sign.isLoss (how : Loss) : Sign → Bool
  | lost _ h => h = how
  | _ => false

def Stage.awaitsCount : Stage → Bool
  | ended _ => true
  | _ => false

def Stage.awaitsRecord : Stage → Bool
  | ended o | counted o => o.isFailure
  | _ => false

def Stage.isBooked : Stage → Bool
  | counted _ | recorded _ | discarded _ | crashed => true
  | _ => false

def lossesIn (log : List Sign) (how : Loss) : Nat := log.countP (Sign.isLoss how)

structure Tallied (log : List Sign) (q : Queue) : Prop where
  admitted : q.totals.admitted = (admissionsIn log).length
  rejected : q.totals.rejected + q.refusing = log.countP Sign.isRefusal
  completed : q.totals.completed + q.count Stage.awaitsCount = log.countP Sign.isEnd
  failed : q.totals.failed + q.count Stage.awaitsRecord = log.countP Sign.isFailedEnd
  conserved : q.totals.admitted + q.count Stage.isBooked =
    q.pending.length + q.inFlight + q.totals.completed + lossesIn log .discarded + lossesIn log .crashed

namespace Tallied

theorem new (limits : Config.Queue) : Tallied [] (Queue.new limits) := by
  constructor <;> rfl

theorem change (h : Tallied log q) (ha : r.totals.admitted = q.totals.admitted + (admissionsIn more).length)
    (hr : r.totals.rejected + r.refusing = q.totals.rejected + q.refusing + more.countP Sign.isRefusal)
    (hc : r.totals.completed + r.count Stage.awaitsCount =
      q.totals.completed + q.count Stage.awaitsCount + more.countP Sign.isEnd)
    (hf : r.totals.failed + r.count Stage.awaitsRecord =
      q.totals.failed + q.count Stage.awaitsRecord + more.countP Sign.isFailedEnd)
    (hx : r.totals.admitted + r.count Stage.isBooked + (q.pending.length + q.inFlight + q.totals.completed) =
      q.totals.admitted + q.count Stage.isBooked + (r.pending.length + r.inFlight + r.totals.completed +
        lossesIn more .discarded + lossesIn more .crashed)) : Tallied (log ++ more) r where
  admitted := by rw [ha, h.admitted, admissionsIn_append, List.length_append]
  rejected := by rw [hr, h.rejected, List.countP_append]
  completed := by rw [hc, h.completed, List.countP_append]
  failed := by rw [hf, h.failed, List.countP_append]
  conserved := by
    have hq := h.conserved
    simp only [lossesIn, List.countP_append] at hq hx ⊢
    omega

end Tallied

section

variable {s : Stage} (h : Tallied log q) (hs : Stands q t before after)
include h hs

theorem Tallied.step (hr : r.tasks = (q.setStage t.id s).tasks) (hp : r.pending = q.pending)
    (ha : r.totals.admitted = q.totals.admitted + (admissionsIn more).length)
    (hn : r.totals.rejected + r.refusing = q.totals.rejected + q.refusing + more.countP Sign.isRefusal)
    (hc : r.totals.completed + s.awaitsCount.toNat =
      q.totals.completed + t.stage.awaitsCount.toNat + more.countP Sign.isEnd)
    (hf : r.totals.failed + s.awaitsRecord.toNat =
      q.totals.failed + t.stage.awaitsRecord.toNat + more.countP Sign.isFailedEnd)
    (hi : r.totals.admitted + s.isBooked.toNat + (q.inFlight + q.totals.completed) =
      q.totals.admitted + t.stage.isBooked.toNat + (r.inFlight + r.totals.completed +
        lossesIn more .discarded + lossesIn more .crashed)) : Tallied (log ++ more) r := by
  have hcount (p : Stage → Bool) : r.count p + (p t.stage).toNat = q.count p + (p s).toNat := by
    have hst := count_setStage hs p s
    simp only [count, hr] at hst ⊢
    exact hst
  have h₁ := hcount Stage.awaitsCount
  have h₂ := hcount Stage.awaitsRecord
  have h₃ := hcount Stage.isBooked
  apply h.change ha hn
  · omega
  · omega
  · rw [hp]
    omega

theorem Tallied.remove (hr : r.tasks = (q.removeTask t.id).tasks) (hp : r.pending = q.pending)
    (ht : r.totals = q.totals) (hn : r.refusing = q.refusing) (hcount : t.stage.awaitsCount = false)
    (hrecord : t.stage.awaitsRecord = false) (ha : admissionsIn more = []) (hj : more.countP Sign.isRefusal = 0)
    (hc : more.countP Sign.isEnd = 0) (hf : more.countP Sign.isFailedEnd = 0)
    (hl : ∀ how, lossesIn more how = 0) (hi : q.inFlight = r.inFlight + t.stage.isBooked.toNat) :
    Tallied (log ++ more) r := by
  have hgone (p : Stage → Bool) : r.count p + (p t.stage).toNat = q.count p := by
    have hst := count_removeTask hs p
    simp only [count, hr] at hst ⊢
    exact hst
  have h₁ := hgone Stage.awaitsCount
  have h₂ := hgone Stage.awaitsRecord
  have h₃ := hgone Stage.isBooked
  rw [hcount] at h₁
  rw [hrecord] at h₂
  apply h.change
  · rw [ht, ha]
    rfl
  · rw [ht, hn, hj]
    rfl
  · rw [ht, hc, ← h₁]
    rfl
  · rw [ht, hf, ← h₂]
    rfl
  · rw [ht, hp, hl, hl]
    omega

end

namespace Leaves

variable {s u : Stage} {how : Loss} (h : Leaves s how u)
include h

theorem awaitsCount : s.awaitsCount = false ∧ u.awaitsCount = false := by cases h <;> exact ⟨rfl, rfl⟩

theorem awaitsRecord : s.awaitsRecord = false ∧ u.awaitsRecord = false := by cases h <;> exact ⟨rfl, rfl⟩

theorem isBooked : s.isBooked = false ∧ u.isBooked = true := by cases h <;> exact ⟨rfl, rfl⟩

end Leaves

theorem Move.tallied (h : Move q more r) (hd : Distinct q) (hb : Balanced q) (ht : Tallied log q) :
    Tallied (log ++ more) r := by
  cases h with
  | unseen | noRuntime | draw | dropTicket | take => exact ht.change rfl rfl rfl rfl rfl
  | @enter id job =>
    refine ht.change rfl rfl rfl rfl ?_
    have hp : (q.enter id job).pending.length = q.pending.length + 1 := by simp [Queue.enter]
    rw [hp]
    change q.totals.admitted + 1 + q.count Stage.isBooked + _ =
      q.totals.admitted + q.count Stage.isBooked + (q.pending.length + 1 + q.inFlight + q.totals.completed)
    omega
  | refuse =>
    exact ht.change rfl rfl rfl rfl rfl
  | countRefusal hr =>
    refine ht.change rfl ?_ rfl rfl rfl
    change q.totals.rejected + 1 + (q.refusing - 1) = q.totals.rejected + q.refusing
    omega
  | @grant a rest launcher hp =>
    have hc (p : Stage → Bool) (hp : p (.claimed launcher) = false) :
        (q.grant launcher a rest).count p = q.count p := by
      simp [count, Queue.grant, hp]
    refine ht.change rfl rfl ?_ ?_ ?_
    · rw [hc _ rfl]
      rfl
    · rw [hc _ rfl]
      rfl
    · rw [hc _ rfl, hp, List.length_cons]
      change q.totals.admitted + q.count Stage.isBooked + _ =
        q.totals.admitted + q.count Stage.isBooked + (rest.length + (q.inFlight + 1) + q.totals.completed)
      omega
  | spawn hm hs =>
    obtain ⟨before, after, h⟩ := hd.stands hm
    exact ht.step h rfl rfl rfl rfl (by rw [hs]; rfl) (by rw [hs]; rfl) (by rw [hs]; rfl)
  | @start t hm hs =>
    obtain ⟨before, after, h⟩ := hd.stands hm
    exact ht.step h (s := .calling) rfl rfl rfl rfl (by rw [hs]; rfl) (by rw [hs]; rfl) (by rw [hs]; rfl)
  | @finish t o hm hs =>
    obtain ⟨before, after, h⟩ := hd.stands hm
    have hf : o.isFailure.toNat = [Sign.ended t.id o].countP Sign.isFailedEnd := by
      cases ho : o.isFailure <;> simp [Sign.isFailedEnd, ho]
    exact ht.step h (s := .ended o) rfl rfl rfl rfl (by rw [hs]; rfl) (by rw [hs, ← hf]; rfl) (by rw [hs]; rfl)
  | @countEnd t o hm hs =>
    obtain ⟨before, after, h⟩ := hd.stands hm
    refine ht.step h (s := .counted o) rfl rfl rfl rfl (by rw [hs]; rfl) (by rw [hs]; rfl) ?_
    rw [hs]
    change q.totals.admitted + 1 + (q.inFlight + q.totals.completed) =
      q.totals.admitted + 0 + (q.inFlight + (q.totals.completed + 1))
    omega
  | @countFailure t o hm hs =>
    obtain ⟨before, after, h⟩ := hd.stands hm
    rw [countFailure_eq]
    refine ht.step h (s := .recorded o) rfl rfl rfl rfl (by rw [hs]; rfl) ?_ (by rw [hs]; rfl)
    rw [hs]
    change q.totals.failed + (if o.isFailure then 1 else 0) = q.totals.failed + o.isFailure.toNat
    cases o.isFailure <;> rfl
  | @free t o hm hs =>
    obtain ⟨before, after, h⟩ := hd.stands hm
    have hpos := hb.inFlight_pos hm (hs ▸ rfl)
    refine ht.step h (s := .released o) rfl rfl rfl rfl (by rw [hs]; rfl) (by rw [hs]; rfl) ?_
    rw [hs]
    change q.totals.admitted + 0 + (q.inFlight + q.totals.completed) =
      q.totals.admitted + 1 + (q.inFlight - 1 + q.totals.completed)
    omega
  | @reply t o hm hs =>
    obtain ⟨before, after, h⟩ := hd.stands hm
    exact ht.remove h rfl rfl rfl rfl (hs ▸ rfl) (hs ▸ rfl) rfl rfl rfl rfl (fun _ => rfl) (by rw [hs]; rfl)
  | @abandon t how s hm hl =>
    obtain ⟨before, after, h⟩ := hd.stands hm
    have hcount := hl.awaitsCount
    have hrecord := hl.awaitsRecord
    have hbooked := hl.isBooked
    refine ht.step h (s := s) rfl rfl rfl rfl (by rw [hcount.1, hcount.2]; rfl) (by rw [hrecord.1, hrecord.2]; rfl) ?_
    rw [hbooked.1, hbooked.2]
    change q.totals.admitted + 1 + (q.inFlight + q.totals.completed) = q.totals.admitted + 0 + (q.inFlight +
      q.totals.completed + lossesIn [.lost t.id how] .discarded + lossesIn [.lost t.id how] .crashed)
    cases how <;> simp [lossesIn, Sign.isLoss] <;> omega
  | @depart t hm hl =>
    obtain ⟨before, after, h⟩ := hd.stands hm
    have hpos := hb.inFlight_pos hm (holdsSlot_of_isLeaving hl)
    have hst : t.stage.awaitsCount = false ∧ t.stage.awaitsRecord = false ∧ t.stage.isBooked = true := by
      cases hs : t.stage <;>
        simp_all [Stage.isLeaving, Stage.awaitsCount, Stage.awaitsRecord, Stage.isBooked]
    refine ht.remove h rfl rfl rfl rfl hst.1 hst.2.1 rfl rfl rfl rfl (fun _ => rfl) ?_
    rw [hst.2.2]
    change q.inFlight = q.inFlight - 1 + 1
    omega

theorem Moves.tallied (h : Moves q more r) (hd : Distinct q) (hb : Balanced q) (ht : Tallied log q) :
    Tallied (log ++ more) r := by
  induction h with
  | refl =>
    rw [List.append_nil]
    exact ht
  | move hm m ih =>
    rw [← List.append_assoc]
    exact m.tallied (hm.distinct hd) (hm.balanced hd hb) ih

def Totals.Le (x y : Totals) : Prop :=
  x.admitted ≤ y.admitted ∧ x.rejected ≤ y.rejected ∧ x.completed ≤ y.completed ∧ x.failed ≤ y.failed

theorem Totals.Le.refl (x : Totals) : x.Le x := ⟨Nat.le_refl _, Nat.le_refl _, Nat.le_refl _, Nat.le_refl _⟩

theorem Totals.Le.trans {x y z : Totals} (h : x.Le y) (k : y.Le z) : x.Le z :=
  ⟨Nat.le_trans h.1 k.1, Nat.le_trans h.2.1 k.2.1, Nat.le_trans h.2.2.1 k.2.2.1, Nat.le_trans h.2.2.2 k.2.2.2⟩

theorem Move.totals_le (h : Move q log r) : q.totals.Le r.totals := by
  cases h with
  | enter => exact ⟨Nat.le_succ _, Nat.le_refl _, Nat.le_refl _, Nat.le_refl _⟩
  | countRefusal => exact ⟨Nat.le_refl _, Nat.le_succ _, Nat.le_refl _, Nat.le_refl _⟩
  | countEnd => exact ⟨Nat.le_refl _, Nat.le_refl _, Nat.le_succ _, Nat.le_refl _⟩
  | countFailure =>
    rw [countFailure_eq]
    exact ⟨Nat.le_refl _, Nat.le_refl _, Nat.le_refl _, Nat.le_add_right _ _⟩
  | _ => exact .refl _

theorem Moves.totals_le (h : Moves q log r) : q.totals.Le r.totals := by
  induction h with
  | refl => exact .refl _
  | move _ m ih => exact ih.trans m.totals_le

theorem count_add_le {p₁ p₂ p : Stage → Bool} (hp : ∀ s, (p₁ s).toNat + (p₂ s).toNat ≤ (p s).toNat) (q : Queue) :
    q.count p₁ + q.count p₂ ≤ q.count p := by
  simp only [count]
  induction q.tasks with
  | nil => exact Nat.le_refl _
  | cons t tasks ih =>
    have ht := hp t.stage
    have hone (b : Bool) : (if b = true then 1 else 0) = b.toNat := by cases b <;> rfl
    simp only [List.countP_cons, hone]
    omega

theorem countP_isFailedEnd_le (log : List Sign) : log.countP Sign.isFailedEnd ≤ log.countP Sign.isEnd := by
  apply List.countP_mono_left
  intro x _ hx
  cases x <;> simp_all [Sign.isFailedEnd, Sign.isEnd]

theorem Tallied.ends_le (h : Tallied log q) (hb : Balanced q) : log.countP Sign.isEnd ≤ (admissionsIn log).length := by
  have hc : q.count Stage.awaitsCount + q.count Stage.isBooked ≤ q.count Stage.holdsSlot :=
    count_add_le (fun s => by cases s <;> simp [Stage.awaitsCount, Stage.isBooked, Stage.holdsSlot]) q
  have ha := h.admitted
  have he := h.completed
  have hx := h.conserved
  rw [hb.inFlight] at hx
  omega

/-- Nothing is under way: every refusal is counted, and every slot is given back whose call has ended. -/
structure Settled (q : Queue) : Prop where
  refusing : q.refusing = 0
  ending : ∀ t ∈ q.tasks, t.stage.isEnding = false

theorem Settled.count_eq_zero (h : Settled q) {p : Stage → Bool} (hp : ∀ s, p s = true → s.isEnding = true) :
    q.count p = 0 := by
  rw [count, List.countP_eq_zero]
  intro t ht hpt
  exact absurd ((hp _ hpt).symm.trans (h.ending t ht)) Bool.true_eq_false.mp

theorem Paused.settled (h : Paused [] q) : Settled q := by
  refine ⟨h.quiet.2.2, fun t ht => ?_⟩
  rw [(h.stages t ht).resolve_right (by simp)]
  rfl

/-- A call that panics before there is anything to wait for has ended as well, and has failed. -/
def Sign.endsCall : Sign → Bool
  | ended _ _ | lost _ .crashed => true
  | _ => false

def Sign.failsCall : Sign → Bool
  | ended _ o => o.isFailure
  | lost _ .crashed => true
  | _ => false

/-- No call panicked before there was anything to wait for. -/
def Uncrashed (log : List Sign) : Prop := ∀ id, .lost id .crashed ∉ log

theorem lossesIn_crashed_eq_zero : lossesIn log .crashed = 0 ↔ Uncrashed log := by
  rw [lossesIn, List.countP_eq_zero]
  constructor
  · exact fun h id hm => h _ hm rfl
  · intro h x hx hl
    cases x with
    | lost id how => exact h id (of_decide_eq_true hl ▸ hx)
    | _ => cases hl

theorem countP_add {α : Type} {p₁ p₂ p : α → Bool} (h : ∀ x, (p₁ x).toNat + (p₂ x).toNat = (p x).toNat)
    (xs : List α) : xs.countP p₁ + xs.countP p₂ = xs.countP p := by
  induction xs with
  | nil => rfl
  | cons x xs ih =>
    have hx := h x
    have hone (b : Bool) : (if b = true then 1 else 0) = b.toNat := by cases b <;> rfl
    simp only [List.countP_cons, hone]
    omega

theorem countP_endsCall (log : List Sign) :
    log.countP Sign.isEnd + lossesIn log .crashed = log.countP Sign.endsCall := by
  refine countP_add (fun x => ?_) log
  cases x with
  | lost id how => cases how <;> rfl
  | _ => rfl

theorem countP_failsCall (log : List Sign) :
    log.countP Sign.isFailedEnd + lossesIn log .crashed = log.countP Sign.failsCall := by
  refine countP_add (fun x => ?_) log
  cases x with
  | lost id how => cases how <;> rfl
  | _ => rfl

/-- What a snapshot tells of everything that was seen. -/
structure Conserved (log : List Sign) (s : Snapshot) : Prop where
  admitted : s.admitted.toNat = (admissionsIn log).length
  rejected : s.rejected.toNat = log.countP Sign.isRefusal
  jobs_iff : s.admitted.toNat = s.pending + s.inFlight + s.completed.toNat + lossesIn log .discarded ↔ Uncrashed log
  completed_iff : s.completed.toNat = log.countP Sign.endsCall ↔ Uncrashed log
  failed_iff : s.failed.toNat = log.countP Sign.failsCall ↔ Uncrashed log
  failed_le : s.failed ≤ s.completed
  completed_le : s.completed ≤ s.admitted

def submissionsIn (log : List Sign) : Nat := (admissionsIn log).length + log.countP Sign.isRefusal

theorem Tallied.totals_lt (h : Tallied log q) (hb : Balanced q) (hn : submissionsIn log < 2 ^ 64) :
    q.totals.admitted < 2 ^ 64 ∧ q.totals.rejected < 2 ^ 64 ∧ q.totals.completed < 2 ^ 64 ∧
      q.totals.failed < 2 ^ 64 := by
  have hends := h.ends_le hb
  have hfails := countP_isFailedEnd_le log
  have ha := h.admitted
  have hr := h.rejected
  have hc := h.completed
  have hf := h.failed
  rw [submissionsIn] at hn
  omega

theorem Tallied.snapshot_totals (h : Tallied log q) (hb : Balanced q) (hn : submissionsIn log < 2 ^ 64) :
    q.snapshot.admitted.toNat = q.totals.admitted ∧ q.snapshot.rejected.toNat = q.totals.rejected ∧
      q.snapshot.completed.toNat = q.totals.completed ∧ q.snapshot.failed.toNat = q.totals.failed := by
  obtain ⟨ha, hr, hc, hf⟩ := h.totals_lt hb hn
  exact ⟨UInt64.toNat_ofNat_of_lt' ha, UInt64.toNat_ofNat_of_lt' hr, UInt64.toNat_ofNat_of_lt' hc,
    UInt64.toNat_ofNat_of_lt' hf⟩

theorem Tallied.conserves (h : Tallied log q) (hb : Balanced q) (hs : Settled q) (hn : submissionsIn log < 2 ^ 64) :
    Conserved log q.snapshot := by
  obtain ⟨ha, hr, hc, hf⟩ := h.snapshot_totals hb hn
  have h₁ : q.count Stage.awaitsCount = 0 := hs.count_eq_zero fun s => by
    cases s <;> simp [Stage.awaitsCount, Stage.isEnding]
  have h₂ : q.count Stage.awaitsRecord = 0 := hs.count_eq_zero fun s => by
    cases s <;> simp [Stage.awaitsRecord, Stage.isEnding]
  have h₃ : q.count Stage.isBooked = 0 := hs.count_eq_zero fun s => by
    cases s <;> simp [Stage.isBooked, Stage.isEnding]
  have hrej : q.totals.rejected = log.countP Sign.isRefusal := by rw [← h.rejected, hs.refusing, Nat.add_zero]
  have hcomp : q.totals.completed = log.countP Sign.isEnd := by rw [← h.completed, h₁, Nat.add_zero]
  have hfail : q.totals.failed = log.countP Sign.isFailedEnd := by rw [← h.failed, h₂, Nat.add_zero]
  have hjobs := h.conserved
  rw [h₃, Nat.add_zero] at hjobs
  have hends := countP_endsCall log
  have hfails := countP_failsCall log
  constructor
  case admitted => rw [ha, h.admitted]
  case rejected => rw [hr, hrej]
  case jobs_iff =>
    rw [← lossesIn_crashed_eq_zero, ha, hc]
    change q.totals.admitted = q.pending.length + q.inFlight + q.totals.completed + lossesIn log .discarded ↔ _
    omega
  case completed_iff =>
    rw [← lossesIn_crashed_eq_zero, hc]
    omega
  case failed_iff =>
    rw [← lossesIn_crashed_eq_zero, hf]
    omega
  case failed_le =>
    rw [UInt64.le_iff_toNat_le, hf, hc, hfail, hcomp]
    exact countP_isFailedEnd_le log
  case completed_le =>
    rw [UInt64.le_iff_toNat_le, hc, ha, hcomp, h.admitted]
    exact h.ends_le hb

def Snapshot.Le (s t : Snapshot) : Prop :=
  s.admitted ≤ t.admitted ∧ s.rejected ≤ t.rejected ∧ s.completed ≤ t.completed ∧ s.failed ≤ t.failed

theorem Tallied.snapshot_le (h : Tallied log q) (hd : Distinct q) (hb : Balanced q) (hm : Moves q more r)
    (hn : submissionsIn (log ++ more) < 2 ^ 64) : q.snapshot.Le r.snapshot := by
  have hlog : submissionsIn log < 2 ^ 64 := by
    refine Nat.lt_of_le_of_lt ?_ hn
    simp only [submissionsIn, admissionsIn_append, List.length_append, List.countP_append]
    omega
  obtain ⟨ha, hj, hc, hf⟩ := h.snapshot_totals hb hlog
  obtain ⟨ha', hj', hc', hf'⟩ := (hm.tallied hd hb h).snapshot_totals (hm.balanced hd hb) hn
  simp only [Snapshot.Le, UInt64.le_iff_toNat_le, ha, hj, hc, hf, ha', hj', hc', hf']
  exact hm.totals_le

def Event.isUncounted : Event → Bool
  | .submitOutside _ | .discard _ | .act (.vacate _) | .vacateOutside _ | .stop | .restart => true
  | _ => false

theorem totals_discard (id : Nat) (q : Queue) : (q.discard id).totals = q.totals := by
  unfold discard
  split <;> rfl

theorem totals_vacate (id : Nat) (q : Queue) : (q.vacate id).totals = q.totals := totals_claim _ _

theorem totals_of_isUncounted {e : Event} (he : e.isUncounted = true) (h : q.step? e = some r) :
    r.totals = q.totals := by
  cases e with
  | poll | schedule => cases he
  | act a =>
    obtain ⟨⟨s, x⟩, ha, rfl⟩ := Option.map_eq_some_iff.mp h
    cases acts_of_act? ha with
    | vacate => exact totals_vacate _ q
    | observe => rfl
    | _ => cases he
  | submitOutside job =>
    cases h
    rw [outside_submit]
  | discard id =>
    simp only [step?, Option.ite_none_right_eq_some, Option.some.injEq] at h
    exact h.2 ▸ totals_discard id q
  | vacateOutside id =>
    simp only [step?, Option.ite_none_right_eq_some, Option.some.injEq] at h
    exact h.2 ▸ totals_vacate id { q with runtime := none }
  | stop =>
    simp only [step?, Option.ite_none_right_eq_some, Option.some.injEq] at h
    exact h.2 ▸ rfl
  | restart =>
    simp only [step?, Option.ite_none_left_eq_some, Option.some.injEq] at h
    exact h.2 ▸ rfl

def resultsBy (q : Queue) : Operation → List (Except Rejection Nat)
  | .submit job => [(q.submit job).1]
  | .submitOutside job => [(submit job { q with runtime := none }).1]
  | _ => []

def resultsOf : List (Option Outcome × Operation) → Queue → List (Except Rejection Nat)
  | [], _ => []
  | x :: xs, q => q.resultsBy x.2 ++ resultsOf xs (q.operate x.1 x.2)

def isTicket : Except Rejection Nat → Bool
  | .ok _ => true
  | .error _ => false

def isQueueFull : Except Rejection Nat → Bool
  | .error (.full _ _) => true
  | _ => false

theorem count_decisionsBy (q : Queue) (x : Operation) :
    (admissionsIn (q.decisionsBy x)).length = (q.resultsBy x).countP isTicket ∧
      (q.decisionsBy x).countP Sign.isRefusal = (q.resultsBy x).countP isQueueFull := by
  cases x with
  | submit job =>
    simp only [decisionsBy, decidedBy, resultsBy]
    cases (q.submit job).1 with
    | ok id => exact ⟨rfl, rfl⟩
    | error e => cases e <;> exact ⟨rfl, rfl⟩
  | _ => exact ⟨rfl, rfl⟩

theorem count_decisionsOf (xs : List (Option Outcome × Operation)) (q : Queue) :
    (admissionsIn (decisionsOf xs q)).length = (resultsOf xs q).countP isTicket ∧
      (decisionsOf xs q).countP Sign.isRefusal = (resultsOf xs q).countP isQueueFull := by
  induction xs generalizing q with
  | nil => exact ⟨rfl, rfl⟩
  | cons x xs ih =>
    obtain ⟨hadmitted, hrefused⟩ := count_decisionsBy q x.2
    obtain ⟨hrest, hrests⟩ := ih (q.operate x.1 x.2)
    simp only [decisionsOf, resultsOf, admissionsIn_append, List.length_append, List.countP_append]
    omega

theorem countP_isRefusal_decisionsIn (log : List Sign) :
    (decisionsIn log).countP Sign.isRefusal = log.countP Sign.isRefusal := by
  rw [decisionsIn, List.countP_filter]
  refine List.countP_congr fun x _ => ?_
  cases x <;> simp [Sign.isRefusal, Sign.isDecision]

theorem countP_results_le (results : List (Except Rejection Nat)) :
    results.countP isTicket + results.countP isQueueFull ≤ results.length := by
  have hone (x : Except Rejection Nat) : (isTicket x).toNat + (isQueueFull x).toNat =
      (isTicket x || isQueueFull x).toNat := by
    obtain e | id := x
    · cases e <;> rfl
    · rfl
  exact countP_add hone results ▸ List.countP_le_length

theorem crashed_notMem_signs {id : Nat} {e : Event} (he : e ≠ .act (.crash id)) : .lost id .crashed ∉ q.signs e := by
  unfold signs
  split
  case h_2 id job => cases hs : (q.submitSection id job).1 with
    | ok => simp [Sign.ofSubmission]
    | error x => cases x <;> simp [Sign.ofSubmission]
  case h_3 => simp [callSigns]
  case h_4 i =>
    have hne : i ≠ id := fun h => he (h ▸ rfl)
    simp [callSigns, hne.symm]
  case h_9 => split <;> simp
  case h_11 => simp [submit, isRunning, Sign.ofSubmission]
  all_goals simp

theorem Run.uncrashed (h : Run serial q log r) : Uncrashed log := by
  induction h with
  | refl => exact fun id => List.not_mem_nil
  | step _ hs _ ih =>
    intro id hm
    exact (List.mem_append.mp hm).elim (ih id) (crashed_notMem_signs (hs.2 id).1)

theorem submissionsIn_append (log more : List Sign) :
    submissionsIn (log ++ more) = submissionsIn log + submissionsIn more := by
  simp only [submissionsIn, admissionsIn_append, List.length_append, List.countP_append]
  omega

theorem count_of_decisionsIn {xs : List (Option Outcome × Operation)} (h : decisionsIn log = decisionsOf xs q) :
    (admissionsIn log).length = (resultsOf xs q).countP isTicket ∧
      log.countP Sign.isRefusal = (resultsOf xs q).countP isQueueFull ∧
      submissionsIn log ≤ (resultsOf xs q).length := by
  obtain ⟨hadmitted, hrefused⟩ := count_decisionsOf xs q
  rw [← h, admissionsIn_decisionsIn] at hadmitted
  rw [← h, countP_isRefusal_decisionsIn] at hrefused
  have hle := countP_results_le (resultsOf xs q)
  refine ⟨hadmitted, hrefused, ?_⟩
  rw [submissionsIn]
  omega

/-- Where nothing is under way, the books are right unless a call panicked before there was anything to wait for: every
job that was admitted waits, is in flight, has been completed or was discarded. Whatever happens, no total gets smaller.
Between operations that are done one after the other, nothing is under way and no call panics like that. -/
theorem jobs_conserved_unless_crashed (limits : Config.Queue) :
    (∀ allowed log q, Run allowed (new limits) log q → submissionsIn log < 2 ^ 64 →
      (Settled q → Conserved log q.snapshot) ∧
      (∀ e r, e.isUncounted = true → q.step? e = some r → r.totals = q.totals) ∧
      ∀ more r, Run allowed q more r → submissionsIn (log ++ more) < 2 ^ 64 → q.snapshot.Le r.snapshot) ∧
    ∀ xs ys q r, (new limits).operateAll xs = q → q.operateAll ys = r →
      (resultsOf xs (new limits)).length + (resultsOf ys q).length < 2 ^ 64 →
      q.snapshot.Le r.snapshot ∧ ∃ log, Run attended (new limits) log q ∧
        Settled q ∧ Uncrashed log ∧ Conserved log q.snapshot ∧
        q.snapshot.admitted.toNat = (resultsOf xs (new limits)).countP isTicket ∧
        q.snapshot.rejected.toNat = (resultsOf xs (new limits)).countP isQueueFull := by
  have tallied {allowed : Queue → Event → Prop} {log : List Sign} {q : Queue} (h : Run allowed (new limits) log q) :
      Distinct q ∧ Balanced q ∧ Tallied log q :=
    ⟨h.moves.distinct (distinct_new limits), h.moves.balanced (distinct_new limits) (.new limits),
      h.moves.tallied (distinct_new limits) (.new limits) (.new limits)⟩
  constructor
  · intro allowed log q h hn
    obtain ⟨hd, hb, ht⟩ := tallied h
    exact ⟨fun hs => ht.conserves hb hs hn, fun e r => totals_of_isUncounted, fun more r hr hm =>
      ht.snapshot_le hd hb hr.moves hm⟩
  · rintro xs ys q r rfl rfl hn
    obtain ⟨⟨log, hrun, hlog⟩, hp⟩ := (Paused.new limits).operateAll xs
    obtain ⟨⟨more, hmore, hdecided⟩, -⟩ := hp.operateAll ys
    obtain ⟨hadmitted, hrefused, hlogged⟩ := count_of_decisionsIn hlog
    obtain ⟨-, -, hlater⟩ := count_of_decisionsIn hdecided
    obtain ⟨hd, hb, ht⟩ := tallied hrun
    have hc := ht.conserves hb hp.settled (by omega)
    exact ⟨ht.snapshot_le hd hb hmore.moves (by rw [submissionsIn_append]; omega), log,
      hrun.mono fun _ _ hs => hs.1, hp.settled, hrun.uncrashed, hc, hc.admitted.trans hadmitted,
      hc.rejected.trans hrefused⟩

def busy : List (Option Outcome × Operation) :=
  [(none, .submit plainJob), (none, .submit plainJob), (none, .submit plainJob), (none, .finish 1 .panic)]

theorem jobs_conserved_unless_crashed_busy :
    (∃ log q, (new ⟨1, 1⟩).play? turningAway = some (log, q) ∧ q.totals = ⟨3, 1, 1, 1⟩ ∧ Uncrashed log ∧
      Conserved log q.snapshot ∧ q.snapshot.admitted.toNat =
        q.snapshot.pending + q.snapshot.inFlight + q.snapshot.completed.toNat + lossesIn log .discarded) ∧
    ∃ q, (new ⟨1, 1⟩).operateAll busy = q ∧ q.totals = ⟨2, 1, 1, 1⟩ ∧ q.stop.totals = q.totals ∧
      q.snapshot.Le (q.operateAll [(none, .stop)]).snapshot ∧
      ∃ log, Run attended (new ⟨1, 1⟩) log q ∧ Settled q ∧ Conserved log q.snapshot ∧
        q.snapshot.rejected.toNat = 1 := by
  obtain ⟨hruns, hoperations⟩ := jobs_conserved_unless_crashed ⟨1, 1⟩
  constructor
  · obtain ⟨log, q, h, ht, hn, hs, hu⟩ : ∃ log q, (new ⟨1, 1⟩).play? turningAway = some (log, q) ∧
        q.totals = ⟨3, 1, 1, 1⟩ ∧ submissionsIn log < 2 ^ 64 ∧ Settled q ∧ lossesIn log .crashed = 0 :=
      ⟨_, _, rfl, rfl, by decide, ⟨rfl, by decide⟩, rfl⟩
    have hrun : Run attended (new ⟨1, 1⟩) log q := run_of_play? attended_turningAway h
    have hc := (hruns attended log q hrun hn).1 hs
    have huncrashed := lossesIn_crashed_eq_zero.mp hu
    exact ⟨log, q, h, ht, huncrashed, hc, hc.jobs_iff.mpr huncrashed⟩
  · obtain ⟨q, hq, ht, hstop, hn, hone⟩ : ∃ q, (new ⟨1, 1⟩).operateAll busy = q ∧ q.totals = ⟨2, 1, 1, 1⟩ ∧
        q.stop.totals = q.totals ∧ (resultsOf busy (new ⟨1, 1⟩)).length + (resultsOf [(none, .stop)] q).length < 2 ^ 64 ∧
        (resultsOf busy (new ⟨1, 1⟩)).countP isQueueFull = 1 := ⟨_, rfl, rfl, rfl, by decide, rfl⟩
    obtain ⟨hle, log, hrun, hs, -, hc, -, hr⟩ := hoperations busy [(none, .stop)] q _ hq rfl hn
    exact ⟨q, hq, ht, hstop, hle, log, hrun, hs, hc, hr.trans hone⟩

/-- A call that panics before there is anything to wait for is counted nowhere, and the books are one job short. -/
theorem crashed_unconserved : ∃ log q, (new ⟨1, 1⟩).play? early = some (log, q) ∧ Run attended (new ⟨1, 1⟩) log q ∧
    Settled q ∧ q.snapshot = ⟨0, 0, 1, 1, 1, 0, 0, 0⟩ ∧
    q.snapshot.admitted.toNat ≠
      q.snapshot.pending + q.snapshot.inFlight + q.snapshot.completed.toNat + lossesIn log .discarded ∧
    q.snapshot.completed.toNat ≠ log.countP Sign.endsCall ∧ q.snapshot.failed.toNat ≠ log.countP Sign.failsCall := by
  obtain ⟨log, q, h, hs, hq, hd, he, hf⟩ : ∃ log q, (new ⟨1, 1⟩).play? early = some (log, q) ∧ Settled q ∧
      q.snapshot = ⟨0, 0, 1, 1, 1, 0, 0, 0⟩ ∧ lossesIn log .discarded = 0 ∧ log.countP Sign.endsCall = 1 ∧
      log.countP Sign.failsCall = 1 := ⟨_, _, rfl, ⟨rfl, by decide⟩, rfl, rfl, rfl, rfl⟩
  refine ⟨log, q, h, run_of_play? attended_early h, hs, hq, ?_⟩
  rw [hq, hd, he, hf]
  decide

end Turnstile.Queue
