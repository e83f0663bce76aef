import Turnstile.Proofs.Queue.Handout

namespace Turnstile.Queue

variable {q r : Queue} {id : Nat} {o : Outcome} {launcher : Launcher}

theorem stage?_setStage {s u : Stage} (h : q.stage? id = some u) : (q.setStage id s).stage? id = some s := by
  obtain ⟨t, ht, -⟩ := stage?_eq_some_iff.mp h
  exact stage?_eq_some_iff.mpr ⟨_, task?_setStage ht, rfl⟩

theorem of_mem_setStage {t : Task} {s : Stage} (h : t ∈ (q.setStage id s).tasks) :
    t.id = id ∧ t.stage = s ∨ t.id ≠ id ∧ t ∈ q.tasks := by
  obtain ⟨u, hu, rfl⟩ := List.mem_map.mp h
  by_cases hid : u.id = id
  · rw [if_pos hid]
    exact .inl ⟨hid, rfl⟩
  · rw [if_neg hid]
    exact .inr ⟨hid, hu⟩

theorem Reaches.reply (hs : q.stage? id = some (.released o)) (hc : q.claimedBy (.release id) = []) :
    Reaches q [] (q.reply id o) :=
  .step (e := .act (.reply id)) (by simp [serial, attended]) (by simp) (by simp [step?, act?, hs, hc])

theorem isRunning_of_runtime {y : Runtime} (h : q.runtime = some y) : q.isRunning = true := by
  simp [isRunning, h]

/-- No submission is on its way, and the critical section is free. -/
def Quiet (q : Queue) : Prop := q.isFree = true ∧ q.drawn = [] ∧ q.refusing = 0

/-- Nothing goes on by itself, but for the tasks on the run queue. -/
structure Paused (busy : List Ready) (q : Queue) : Prop where
  sound : Sound q
  quiet : Quiet q
  ready : ∀ x, q.runtime = some x → x.ready = busy
  stages : ∀ t ∈ q.tasks, t.stage = .calling ∨
    (∃ x ∈ busy, x.id = t.id) ∧ (t.stage = .spawned ∨ ∃ o, t.stage = .ended o)
  stopped : q.isRunning = false → q.tasks = []

/-- It is the turn of one task; the others wait for their calls. -/
structure Turn (id : Nat) (q : Queue) : Prop where
  sound : Sound q
  quiet : Quiet q
  runtime : ∃ looks, q.runtime = some ⟨looks, []⟩
  others : ∀ t ∈ q.tasks, t.id ≠ id → t.stage = .calling

/-- The state after a turn: at most one task can go on, and every turn still to come takes a waiting job. -/
def Yields (n : Nat) (q : Queue) : Prop :=
  ∃ busy, Paused busy q ∧ busy.length ≤ 1 ∧ q.pending.length + busy.length ≤ n

namespace Handed

theorem quiet (h : Handed launcher q r) (hq : Quiet q) : Quiet r := by
  cases h <;> exact hq

theorem stage? {s : Stage} (h : Handed launcher q r) (hs : q.stage? id = some s) : r.stage? id = some s := by
  cases h with
  | none measures => exact hs
  | next a rest measures hp =>
    obtain ⟨t, ht, hst⟩ := stage?_eq_some_iff.mp hs
    refine stage?_eq_some_iff.mpr ⟨t, ?_, hst⟩
    simp only [task?] at ht
    simp only [task?, dispatch, List.find?_append, ht, Option.some_or]

theorem claimedBy {other : Launcher} (h : Handed launcher q r) (hc : q.claimedBy other = []) :
    r.claimedBy other = [] := by
  cases h with
  | none measures => exact hc
  | next a rest measures hp =>
    refine (claimedBy_append q _ other).trans ?_
    rw [hc]
    rfl

/-- Where the calls are all that is left of the old tasks, the task that got the slot is the only one that can go on. -/
theorem yields {looks : Nat} {p : Queue} (h : Handed launcher q r) (hrt : q.runtime = some ⟨looks, []⟩) (hs : Sound p)
    (hq : Quiet p) (hprt : p.runtime = r.runtime) (hpp : p.pending = r.pending)
    (ht : ∀ t ∈ p.tasks, t ∈ r.tasks ∧ (t ∈ q.tasks → t.stage = .calling)) : Yields q.pending.length p := by
  cases h with
  | none measures =>
    have hprt : p.runtime = some ⟨looks, []⟩ := hprt.trans hrt
    refine ⟨[], ⟨hs, hq, fun x hx => ?_, fun t hm => .inl ((ht t hm).2 (ht t hm).1), fun hn => ?_⟩, Nat.zero_le _,
      Nat.le_of_eq (congrArg _ hpp)⟩
    · cases hprt.symm.trans hx
      rfl
    · exact absurd ((isRunning_of_runtime hprt).symm.trans hn) nofun
  | next a rest measures hp =>
    have hprt : p.runtime = some ⟨looks, [⟨a.id, launcher.lane⟩]⟩ := by
      simpa [dispatch, hrt] using hprt
    have hl : p.pending.length + 1 = q.pending.length := by
      rw [hpp, hp, List.length_cons]
      rfl
    refine ⟨[⟨a.id, launcher.lane⟩], ⟨hs, hq, fun x hx => ?_, fun t hm => ?_, fun hn => ?_⟩, Nat.le_refl _,
      Nat.le_of_eq hl⟩
    · cases hprt.symm.trans hx
      rfl
    · obtain ⟨hr, hc⟩ := ht t hm
      obtain hr | hr := List.mem_append.mp hr
      · exact .inl (hc hr)
      · cases List.mem_singleton.mp hr
        exact .inr ⟨⟨_, List.mem_singleton_self _, rfl⟩, .inl rfl⟩
    · exact absurd ((isRunning_of_runtime hprt).symm.trans hn) nofun

end Handed

namespace Turn

theorem isRunning (h : Turn id q) : q.isRunning = true := by
  obtain ⟨looks, hr⟩ := h.runtime
  exact isRunning_of_runtime hr

theorem others_setStage (h : Turn id q) (s : Stage) {t : Task} (ht : t ∈ (q.setStage id s).tasks) (hid : t.id ≠ id) :
    t.stage = .calling := by
  obtain ⟨he, -⟩ | ⟨-, hq⟩ := of_mem_setStage ht
  · exact absurd he hid
  · exact h.others t hq hid

theorem paused (h : Turn id q) (hs : ∀ t ∈ q.tasks, t.id = id → t.stage = .calling) : Paused [] q where
  sound := h.sound
  quiet := h.quiet
  ready x hx := by
    obtain ⟨looks, hr⟩ := h.runtime
    cases hx.symm.trans hr
    rfl
  stages t ht := .inl (by
    by_cases hid : t.id = id
    · exact hs t ht hid
    · exact h.others t ht hid)
  stopped hr := absurd (h.isRunning.symm.trans hr) nofun

theorem next {e : Event} (h : Turn id q) (hs : serial q e) (he : ∀ id job, e ≠ .act (.submit id job))
    (hst : q.step? e = some r) (hf : r.reading = q.reading) (hd : r.drawn = q.drawn) (hr : r.refusing = q.refusing)
    (hrt : r.runtime = q.runtime) (ho : ∀ t ∈ r.tasks, t.id ≠ id → t.stage = .calling) :
    Reaches q [] r ∧ Turn id r := by
  have hq : Reaches q [] r := .step hs he hst
  refine ⟨hq, hq.sound h.sound, ?_, hrt ▸ h.runtime, ho⟩
  simpa only [Quiet, isFree, hf, hd, hr] using h.quiet

theorem start (h : Turn id q) (hs : q.stage? id = some .spawned) :
    Reaches q [] (q.start id) ∧ Turn id (q.start id) ∧ (q.start id).stage? id = some .calling := by
  obtain ⟨t, ht, hst⟩ := stage?_eq_some_iff.mp hs
  obtain ⟨hm, rfl⟩ := task?_eq_some ht
  have hdq : q.dequeue t.id = q := by
    obtain ⟨looks, hr⟩ := h.runtime
    simp only [dequeue, hr, Option.map_some, List.eraseP_nil]
    rw [← hr]
  have hstep : q.step? (.act (.start t.id)) = some (q.start t.id) := by
    simp [step?, act?, h.isRunning, hs, hdq]
  have hfirst : q.unstarted.head?.map Admitted.id = some t.id := by
    have hmem : t.admitted ∈ q.unstarted :=
      List.mem_map_of_mem (List.mem_filter.mpr ⟨hm, by rw [hst]; rfl⟩)
    cases hu : q.unstarted with
    | nil => simp [hu] at hmem
    | cons a rest =>
      obtain ⟨u, huf, rfl⟩ := List.mem_map.mp (show a ∈ q.unstarted by simp [hu])
      obtain ⟨hum, hus⟩ := List.mem_filter.mp huf
      by_cases hid : u.id = t.id
      · exact congrArg some hid
      · simp [h.others u hum hid, Stage.isUnstarted] at hus
  have hserial : serial q (.act (.start t.id)) := by
    refine ⟨by simp [attended], fun i => ⟨by simp, fun hi => ?_⟩⟩
    cases hi
    exact hfirst
  rw [start_eq ht] at hstep ⊢
  obtain ⟨hr, hn⟩ := h.next hserial (by simp) hstep rfl rfl rfl rfl fun u hu => h.others_setStage .calling hu
  exact ⟨hr, hn, stage?_setStage hs⟩

theorem finish (h : Turn id q) (hs : q.stage? id = some .calling) (o : Outcome) :
    Reaches q [] (q.finish id o) ∧ Turn id (q.finish id o) ∧ (q.finish id o).stage? id = some (.ended o) := by
  obtain ⟨hr, hn⟩ := h.next (e := .act (.finish id o)) (r := q.finish id o) (by simp [serial, attended]) (by simp)
    (by simp [step?, act?, hs]) rfl rfl rfl rfl fun u hu => h.others_setStage (.ended o) hu
  exact ⟨hr, hn, stage?_setStage hs⟩

theorem countEnd (h : Turn id q) (hs : q.stage? id = some (.ended o)) :
    Reaches q [] (q.countEnd id o) ∧ Turn id (q.countEnd id o) ∧ (q.countEnd id o).stage? id = some (.counted o) := by
  obtain ⟨hr, hn⟩ := h.next (e := .act (.countEnd id)) (r := q.countEnd id o) (by simp [serial, attended]) (by simp)
    (by simp [step?, act?, hs]) rfl rfl rfl rfl fun u hu => h.others_setStage (.counted o) hu
  exact ⟨hr, hn, stage?_setStage hs⟩

theorem countFailure (h : Turn id q) (hs : q.stage? id = some (.counted o)) :
    Reaches q [] (q.countFailure id o) ∧ Turn id (q.countFailure id o) ∧
      (q.countFailure id o).stage? id = some (.recorded o) := by
  have hstep : q.step? (.act (.countFailure id)) = some (q.countFailure id o) := by simp [step?, act?, hs]
  rw [countFailure_eq] at hstep ⊢
  obtain ⟨hr, hn⟩ := h.next (e := .act (.countFailure id)) (by simp [serial, attended]) (by simp) hstep rfl rfl rfl rfl
    fun u hu => h.others_setStage (.recorded o) hu
  exact ⟨hr, hn, stage?_setStage hs⟩

theorem claimedBy_free (h : Turn id q) (o : Outcome) (launcher : Launcher) :
    (q.free id o).claimedBy launcher = [] := by
  simp only [claimedBy, List.map_eq_nil_iff, List.filter_eq_nil_iff, decide_eq_true_iff]
  intro t ht hl
  obtain ⟨-, hr⟩ | ⟨hid, hq⟩ := of_mem_setStage ht
  · simp [hr] at hl
  · simp [h.others t hq hid] at hl

theorem release (h : Turn id q) (hs : q.stage? id = some (.recorded o)) :
    Reaches q [] ((q.release id o).launch (.release id)) ∧
      Handed (.release id) (q.free id o) ((q.release id o).launch (.release id)) := by
  obtain ⟨t, ht, rfl, hst⟩ := exists_task_of_stage? hs
  have hd : Distinct (q.free t.id o) := Move.distinct (.free ht hst) h.sound.distinct
  obtain ⟨hh, hr⟩ := handed_launch hd h.isRunning (h.claimedBy_free o _) h.sound.one_free
  have hstep : Reaches q [] (q.release t.id o) :=
    .step (e := .act (.release t.id)) (by simp [serial, attended]) (by simp)
      (by simp [step?, act?, hs, h.isRunning, h.quiet.1])
  exact ⟨hstep.snoc hr, hh⟩

theorem reply (h : Turn id q) (hs : q.stage? id = some (.recorded o)) (hr : Sound r)
    (hh : Handed (.release id) (q.free id o) r) :
    Reaches r [] (r.reply id o) ∧ Yields q.pending.length (r.reply id o) := by
  have hf : (q.free id o).stage? id = some (.released o) := stage?_setStage hs
  have hq : Reaches r [] (r.reply id o) := .reply (hh.stage? hf) (hh.claimedBy (h.claimedBy_free o _))
  obtain ⟨looks, hrt⟩ := h.runtime
  refine ⟨hq, hh.yields (p := r.reply id o) hrt (hq.sound hr) (hh.quiet h.quiet) rfl rfl fun t ht => ?_⟩
  obtain ⟨ht, hid⟩ := List.mem_filter.mp ht
  exact ⟨ht, fun hm => h.others_setStage (.released o) hm (of_decide_eq_true hid)⟩

theorem complete (h : Turn id q) (hs : q.stage? id = some (.ended o)) :
    Reaches q [] (q.complete id o) ∧ Yields q.pending.length (q.complete id o) := by
  obtain ⟨h₁, hq₁, hs₁⟩ := h.countEnd hs
  obtain ⟨h₂, hq₂, hs₂⟩ := hq₁.countFailure hs₁
  obtain ⟨h₃, hh⟩ := hq₂.release hs₂
  obtain ⟨h₄, hy⟩ := hq₂.reply hs₂ (h₃.sound hq₂.sound) hh
  refine ⟨((h₁.snoc h₂).snoc h₃).snoc h₄, ?_⟩
  have hp : ((q.countEnd id o).countFailure id o).pending = q.pending := by
    rw [countFailure_eq]
    rfl
  rw [hp] at hy
  exact hy

theorem resume (h : Turn id q) (hs : ∀ t ∈ q.tasks, t.stage = .calling ∨ t.stage = .spawned ∨ ∃ o, t.stage = .ended o)
    (auto : Option Outcome) : Reaches q [] (q.resume auto id) ∧ Yields q.pending.length (q.resume auto id) := by
  unfold Queue.resume
  split
  · next hst =>
    obtain ⟨h₁, hq₁, hs₁⟩ := h.start hst
    have hp : (q.start id).pending = q.pending := by
      obtain ⟨t, ht, -⟩ := stage?_eq_some_iff.mp hst
      rw [start_eq ht]
      rfl
    split
    · refine ⟨h₁, [], hq₁.paused fun t ht hid => ?_, Nat.zero_le _, Nat.le_of_eq (congrArg _ hp)⟩
      obtain ⟨u, hu, hus⟩ := stage?_eq_some_iff.mp hs₁
      have hd := hq₁.sound.distinct.task?_eq_some ht
      rw [hid] at hd
      cases hd.symm.trans hu
      exact hus
    · next o =>
      obtain ⟨h₂, hq₂, hs₂⟩ := hq₁.finish hs₁ o
      obtain ⟨h₃, hy⟩ := hq₂.complete hs₂
      refine ⟨(h₁.snoc h₂).snoc h₃, ?_⟩
      change Yields (q.start id).pending.length _ at hy
      rw [hp] at hy
      exact hy
  · next o hst => exact h.complete hst
  · next hns hne =>
    refine ⟨.refl q, [], h.paused fun t ht hid => ?_, Nat.zero_le _, Nat.le_refl _⟩
    have hst : q.stage? id = some t.stage :=
      stage?_eq_some_iff.mpr ⟨t, hid ▸ h.sound.distinct.task?_eq_some ht, rfl⟩
    obtain hc | hc | ⟨o, hc⟩ := hs t ht
    · exact hc
    · exact absurd (hc ▸ hst) hns
    · exact absurd (hc ▸ hst) (hne o)

end Turn

namespace Paused

variable {busy : List Ready} {x : Ready}

theorem schedule (h : Paused busy q) (hr : q.isRunning = true) {y : Runtime} (hy : y.ready = busy) :
    Reaches q [] { q with runtime := some y } ∧ Paused busy { q with runtime := some y } := by
  have hq := Reaches.schedule hr y
  refine ⟨hq, hq.sound h.sound, h.quiet, fun z hz => ?_, h.stages, nofun⟩
  cases hz
  exact hy

theorem of_stopped (h : Paused busy q) (hr : q.runtime = none) : Paused [] q := by
  have ht : q.tasks = [] := h.stopped (by simp [isRunning, hr])
  exact ⟨h.sound, h.quiet, by simp [hr], by simp [ht], fun _ => ht⟩

theorem next?_singleton (looks : Nat) (x : Ready) : (Runtime.mk looks [x]).next? = some x := by
  obtain ⟨id, lane⟩ := x
  cases lane <;> simp [Runtime.next?, Runtime.firstOf]

theorem look (h : Paused busy q) (hb : busy.length ≤ 1) :
    (q.look.1 = none ∧ Reaches q [] q.look.2 ∧ Paused [] q.look.2) ∨
      ∃ x, busy = [x] ∧ q.look.1 = some x.id ∧ Reaches q [] q.look.2 ∧ Turn x.id q.look.2 ∧
        q.look.2.tasks = q.tasks ∧ q.look.2.pending = q.pending := by
  cases hr : q.runtime with
  | none =>
    simp only [Queue.look, hr]
    exact .inl ⟨trivial, .refl q, h.of_stopped hr⟩
  | some y =>
    have hrun := isRunning_of_runtime hr
    obtain ⟨looks, ready⟩ := y
    obtain rfl : ready = busy := h.ready _ hr
    obtain - | ⟨x, - | ⟨z, rest⟩⟩ := ready
    · left
      have hn : (Runtime.mk (looks + 1) []).next? = none := by simp [Runtime.next?, Runtime.firstOf]
      simp only [Queue.look, hr, hn]
      exact ⟨trivial, h.schedule hrun rfl⟩
    · right
      have hd : (dequeue x.id { q with runtime := some ⟨looks + 1, [x]⟩ }) =
          { q with runtime := some ⟨looks + 1, []⟩ } := by
        simp [dequeue]
      simp only [Queue.look, hr, next?_singleton, hd]
      have hq := Reaches.schedule hrun ⟨looks + 1, []⟩
      suffices ho : ∀ t ∈ q.tasks, t.id ≠ x.id → t.stage = .calling from
        ⟨x, rfl, rfl, hq, ⟨hq.sound h.sound, h.quiet, ⟨_, rfl⟩, ho⟩, trivial, trivial⟩
      intro t ht hid
      obtain hc | ⟨⟨y, hy, hyt⟩, -⟩ := h.stages t ht
      · exact hc
      · cases List.mem_singleton.mp hy
        exact absurd hyt.symm hid
    · simp at hb

theorem settleWithin (auto : Option Outcome) (fuel : Nat) (h : Paused busy q) (hb : busy.length ≤ 1)
    (hf : q.pending.length + busy.length ≤ fuel) :
    Reaches q [] (q.settleWithin auto fuel) ∧ Paused [] (q.settleWithin auto fuel) := by
  -- A turn trades a waiting job for a ready task, so the waiting jobs and the ready task together bound the turns.
  induction fuel generalizing q busy with
  | zero =>
    have hn : busy = [] := List.eq_nil_of_length_eq_zero (by omega)
    exact ⟨.refl q, hn ▸ h⟩
  | succ fuel ih =>
    cases hq : q.look with
    | mk next p =>
    have hl := h.look hb
    simp only [Queue.settleWithin, hq] at hl ⊢
    obtain ⟨rfl, hr, hp⟩ | ⟨x, rfl, rfl, hr, ht, htasks, hpend⟩ := hl
    · exact ⟨hr, hp⟩
    · have hs : ∀ t ∈ p.tasks, t.stage = .calling ∨ t.stage = .spawned ∨ ∃ o, t.stage = .ended o := fun t hm =>
        (h.stages t (htasks ▸ hm)).imp_right And.right
      obtain ⟨h₁, next, hn, hl, hle⟩ := ht.resume hs auto
      rw [hpend] at hle
      rw [List.length_singleton] at hf
      obtain ⟨h₂, hp⟩ := ih hn hl (by omega)
      exact ⟨(hr.snoc h₁).snoc h₂, hp⟩

theorem settle (auto : Option Outcome) (h : Paused busy q) (hb : busy.length ≤ 1) :
    Reaches q [] (q.settle auto) ∧ Paused [] (q.settle auto) :=
  h.settleWithin auto _ hb (by omega)

theorem claimedBy (h : Paused busy q) (launcher : Launcher) : q.claimedBy launcher = [] := by
  simp only [Queue.claimedBy, List.map_eq_nil_iff, List.filter_eq_nil_iff, decide_eq_true_iff]
  intro t ht hl
  obtain hc | ⟨-, hc | ⟨o, hc⟩⟩ := h.stages t ht <;> simp [hc] at hl

end Paused

end Turnstile.Queue
