import Turnstile.Proofs.Queue.Finishing

namespace Turnstile.Queue

variable {q r s : Queue} {t : Task} {log more : List Sign} {id i j : Nat} {o p : Outcome} {limits : Config.Queue}
  {admitted : List Admitted} {outcome : Nat → Outcome}

theorem resolve_comm (h : i ≠ j) (s u : TicketState) (q : Queue) :
    (q.resolve i s).resolve j u = (q.resolve j u).resolve i s := by
  simp only [resolve, List.map_map, Queue.mk.injEq, true_and, and_true]
  apply List.map_congr_left
  intro k _
  by_cases hi : k.id = i
  · by_cases hw : k.state = .waiting <;> simp [hi, hw, h]
  · by_cases hj : k.id = j <;> by_cases hw : k.state = .waiting <;> simp [hi, hj, hw, Ne.symm h]

theorem conclude_eq (id : Nat) (o : Outcome) (q : Queue) : q.conclude id o =
    { q.account id o with
      tasks := q.tasks.filter (·.id ≠ id)
      tickets := (q.resolve id (.answered o.answer)).tickets } := by
  have ht := tasks_conclude id o q
  simp only [conclude, reply, removeTask, resolve] at ht ⊢
  rw [ht]
  rfl

theorem conclude_comm (h : i ≠ j) (o p : Outcome) (q : Queue) :
    (q.conclude i o).conclude j p = (q.conclude j p).conclude i o := by
  have ht := congrArg tickets (resolve_comm h (.answered o.answer) (.answered p.answer) q)
  simp only [resolve] at ht
  simp only [conclude_eq, account, setStage, resolve, List.filter_filter, ht, Nat.add_right_comm, Bool.and_comm]

theorem task?_conclude (h : j ≠ i) (o : Outcome) (q : Queue) : (q.conclude i o).task? j = q.task? j := by
  rw [task?, tasks_conclude, List.find?_filter, task?]
  apply List.find?_congr
  intro t _
  by_cases ht : t.id = j <;> simp [ht, h]

theorem task?_handOn (h : q.task? id = some t) : q.handOn.task? id = some t := by
  by_cases hp : q.pending = []
  · rw [handOn_of_nil hp]
    exact h
  · obtain ⟨a, rest, hp⟩ := List.exists_cons_of_ne_nil hp
    rw [handOn_of_cons hp]
    simp only [task?] at h
    simp only [task?, dispatch, List.find?_append, h, Option.some_or]

theorem task?_promote (h : q.task? id = some t) : q.promote.task? id = some t := by
  unfold promote
  split
  · exact h
  · simp only [task?] at h
    simp only [task?, List.find?_append, h, Option.some_or]

theorem handOn_conclude_handOn (hi : 1 ≤ q.inFlight) (hp : ∀ a ∈ q.pending, a.id ≠ id) (o : Outcome) :
    (q.handOn.conclude id o).handOn = (q.conclude id o).handOn.handOn := by
  have hpos : q.inFlight + 1 - 1 = q.inFlight - 1 + 1 := by omega
  rcases hpend : q.pending with - | ⟨a, rest⟩
  · simp [handOn, conclude_eq, account, setStage, hpend, resolve]
  · have ha : (⟨a, .spawned⟩ : Task).id ≠ id := hp a (by simp [hpend])
    cases rest <;> simp [handOn, dispatch, conclude_eq, account, setStage, hpend, resolve, hpos, ha]

theorem promote_conclude_promote (hi : 1 ≤ q.inFlight) (hp : ∀ a ∈ q.pending, a.id ≠ id) (o : Outcome) :
    (q.promote.conclude id o).promote = (q.conclude id o).promote.promote := by
  have hpos : q.inFlight + 1 - 1 = q.inFlight - 1 + 1 := by omega
  rcases hpend : q.pending with - | ⟨a, rest⟩
  · simp [promote, conclude_eq, account, setStage, hpend, resolve]
  · have ha : (⟨a, .calling⟩ : Task).id ≠ id := hp a (by simp [hpend])
    cases rest <;> simp [promote, conclude_eq, account, setStage, hpend, resolve, hpos, ha]

theorem inFlight_conclude_pos (hs : Sound q) (hij : i ≠ j) (hi : q.stage? i = some .calling)
    (hj : q.stage? j = some .calling) (o : Outcome) : 1 ≤ (q.conclude i o).inFlight := by
  obtain ⟨t, ht, rfl, hst⟩ := exists_task_of_stage? hi
  obtain ⟨u, hu, rfl, hsu⟩ := exists_task_of_stage? hj
  obtain ⟨before, after, hstands⟩ := hs.distinct.stands ht
  have hc := count_removeTask hstands Stage.holdsSlot
  have hpos : 0 < (q.removeTask t.id).count Stage.holdsSlot := by
    apply List.countP_pos_iff.mpr
    refine ⟨u, List.mem_filter.mpr ⟨hu, decide_eq_true (Ne.symm hij)⟩, ?_⟩
    rw [hsu]
    rfl
  rw [hst, ← hs.balanced.inFlight] at hc
  change 1 ≤ q.inFlight - 1
  change _ + 1 = q.inFlight at hc
  omega

/-- Of two running calls, either can end first, and nothing tells which. -/
structure Interchanges (finish : Nat → Outcome → Queue → Queue) (q : Queue) : Prop where
  running : ∀ i j o, i ≠ j → q.stage? i = some .calling → q.stage? j = some .calling →
    (finish i o q).stage? j = some .calling
  swap : ∀ i j o p, i ≠ j → q.stage? i = some .calling → q.stage? j = some .calling →
    finish j p (finish i o q) = finish i o (finish j p q)

theorem interchanges_of_conclude (kept : Queue → Prop) {finish : Nat → Outcome → Queue → Queue}
    {advance : Queue → Queue} (hs : ∀ q, kept q → Sound q)
    (hf : ∀ q i o, kept q → q.stage? i = some .calling → finish i o q = advance (q.conclude i o))
    (hk : ∀ q i o, kept q → q.stage? i = some .calling → kept (finish i o q))
    (ht : ∀ q id t, task? q id = some t → (advance q).task? id = some t)
    (ha : ∀ q id o, 1 ≤ q.inFlight → (∀ a ∈ q.pending, a.id ≠ id) →
      advance ((advance q).conclude id o) = advance (advance (q.conclude id o)))
    (h : kept q) : Interchanges finish q := by
  have hrunning (i j : Nat) (o : Outcome) (hij : i ≠ j) (hi : q.stage? i = some .calling)
      (hj : q.stage? j = some .calling) : (finish i o q).stage? j = some .calling := by
    obtain ⟨t, htask, hst⟩ := stage?_eq_some_iff.mp hj
    rw [hf q i o h hi]
    exact stage?_eq_some_iff.mpr ⟨t, ht _ _ _ ((task?_conclude (Ne.symm hij) o q).trans htask), hst⟩
  have hboth (i j : Nat) (o p : Outcome) (hij : i ≠ j) (hi : q.stage? i = some .calling)
      (hj : q.stage? j = some .calling) :
      finish j p (finish i o q) = advance (advance ((q.conclude i o).conclude j p)) := by
    rw [hf _ j p (hk q i o h hi) (hrunning i j o hij hi hj), hf q i o h hi]
    apply ha
    · exact inFlight_conclude_pos (hs q h) hij hi hj o
    · intro a hm
      obtain ⟨t, htq, hid, -⟩ := exists_task_of_stage? hj
      rw [← hid]
      exact (hs q h).distinct.pending_ne htq hm
  refine ⟨hrunning, fun i j o p hij hi hj => ?_⟩
  rw [hboth i j o p hij hi hj, hboth j i p o (Ne.symm hij) hj hi, conclude_comm hij]

theorem isFree_handOn (q : Queue) : q.handOn.isFree = q.isFree := by
  unfold handOn
  split <;> rfl

theorem Run.interchanges (h : Run attended (new limits) log q) (hr : q.isRunning = true) (hf : q.isFree = true) :
    Interchanges Queue.completing q := by
  have heq (q : Queue) (i : Nat) (o : Outcome)
      (hq : (∃ log, Run attended (new limits) log q) ∧ q.isRunning = true ∧ q.isFree = true)
      (hi : q.stage? i = some .calling) : q.completing i o = (q.conclude i o).handOn := by
    obtain ⟨⟨log, hrun⟩, hr, -⟩ := hq
    exact completing_eq (hrun.sound (.new limits)) hr hi (hrun.claimedBy_of_calling hi) o
  apply interchanges_of_conclude fun q =>
    (∃ log, Run attended (new limits) log q) ∧ q.isRunning = true ∧ q.isFree = true
  case hs =>
    rintro q ⟨⟨log, hrun⟩, -, -⟩
    exact hrun.sound (.new limits)
  case hf => exact heq
  case hk =>
    intro q i o hq hi
    have hfree : (q.completing i o).isFree = true := by
      rw [heq q i o hq hi, isFree_handOn]
      exact hq.2.2
    obtain ⟨⟨log, hrun⟩, hr, hf⟩ := hq
    have hs := hrun.sound (.new limits)
    obtain ⟨more, hmore⟩ := Run.completing (fun _ => o) hs hr hf hi (hrun.claimedBy_of_calling hi)
    exact ⟨⟨_, hrun.trans (hmore.mono fun _ _ he => attended_of_draining he)⟩, (hmore.drain hs hr).running, hfree⟩
  case ht => exact fun q id t h => task?_handOn h
  case ha => exact fun q id o hi hp => handOn_conclude_handOn hi hp o
  case h => exact ⟨⟨log, h⟩, hr, hf⟩

theorem Operated.running_le_peak (h : Operated limits admitted q) : q.running.length ≤ q.peak := by
  obtain ⟨⟨log, hrun, -⟩, -⟩ := h.reaches
  exact hrun.moves.running_le_peak (distinct_new limits) (Nat.le_refl _)

theorem Operated.interchanges (h : Operated limits admitted q) : Interchanges finishing q := by
  apply interchanges_of_conclude fun q => ∃ admitted, Operated limits admitted q
  case hs => exact fun q ⟨_, hq⟩ => hq.reaches.2.sound
  case hf => exact fun q i o ⟨_, hq⟩ hi => finishing_eq hq.reaches.2 hq.running_le_peak hi o
  case hk => exact fun q i o ⟨_, hq⟩ _ => ⟨_, hq.operate none (.finish i o)⟩
  case ht => exact fun q id t h => task?_promote h
  case ha => exact fun q id o hi hp => promote_conclude_promote hi hp o
  case h => exact ⟨_, h⟩

/-- Finishes calls in a given order, each of them running by then, and each the way it is bound to end. -/
def finishAll? (outcome : Nat → Outcome) : List Nat → Queue → Option Queue
  | [], q => some q
  | id :: ids, q =>
    if q.stage? id = some .calling then finishAll? outcome ids (q.finishing id (outcome id)) else none

theorem finishAll?_cons_eq_some {ids : List Nat} :
    finishAll? outcome (id :: ids) q = some r ↔
      q.stage? id = some .calling ∧ finishAll? outcome ids (q.finishing id (outcome id)) = some r := by
  simp [finishAll?]

theorem Operated.exists_finishAll?_cons {ids : List Nat} (h : Operated limits admitted q)
    (hq : finishAll? outcome ids q = some r) (hr : r.tasks = []) (hi : q.stage? i = some .calling) :
    ∃ rest, finishAll? outcome (i :: rest) q = some r := by
  induction ids generalizing q admitted with
  | nil =>
    cases hq
    obtain ⟨t, ht, -⟩ := exists_task_of_stage? hi
    simp [hr] at ht
  | cons j ids ih =>
    obtain ⟨hj, hrest⟩ := finishAll?_cons_eq_some.mp hq
    by_cases hij : i = j
    · exact ⟨ids, hij ▸ hq⟩
    · have hswap := h.interchanges
      obtain ⟨rest, hlast⟩ :=
        ih (h.operate none (.finish j (outcome j))) hrest (hswap.running j i _ (Ne.symm hij) hj hi)
      obtain ⟨-, hlast⟩ := finishAll?_cons_eq_some.mp hlast
      refine ⟨j :: rest, finishAll?_cons_eq_some.mpr ⟨hi, finishAll?_cons_eq_some.mpr ⟨?_, ?_⟩⟩⟩
      · exact hswap.running i j _ hij hi hj
      · rw [hswap.swap i j _ _ hij hi hj]
        exact hlast

theorem Operated.finishAll?_unique {ids others : List Nat} (h : Operated limits admitted q)
    (hr : finishAll? outcome ids q = some r) (hs : finishAll? outcome others q = some s) (htr : r.tasks = [])
    (hts : s.tasks = []) : r = s := by
  induction ids generalizing q admitted others with
  | nil =>
    cases hr
    cases others with
    | nil => exact Option.some.inj hs
    | cons j others =>
      obtain ⟨t, ht, -⟩ := exists_task_of_stage? (finishAll?_cons_eq_some.mp hs).1
      simp [htr] at ht
  | cons i ids ih =>
    obtain ⟨hi, hrest⟩ := finishAll?_cons_eq_some.mp hr
    obtain ⟨rest, hfirst⟩ := h.exists_finishAll?_cons hs hts hi
    exact ih (h.operate none (.finish i (outcome i))) hrest (finishAll?_cons_eq_some.mp hfirst).2

theorem Balanced.inFlight_eq_zero (hb : Balanced q) (ht : q.tasks = []) : q.inFlight = 0 := by
  simp [hb.inFlight, count, ht]

theorem Run.bare_of_drained (h : Run attended (new limits) log q) (hr : q.isRunning = true)
    (hd : Run (draining outcome) q more r) (hl : r.live = []) : r.drained outcome = r.bare := by
  have hs := h.sound (.new limits)
  have hall : Run attended (new limits) (log ++ more) r := h.trans (hd.mono fun _ _ he => attended_of_draining he)
  have ht : r.tasks = [] := List.map_eq_nil_iff.mp (List.append_eq_nil_iff.mp hl).1
  exact drained_eq_self (hall.moves.ticketed (.new limits) (.new limits))
    ((hd.drain hs hr).sound.balanced.inFlight_eq_zero ht) hl outcome

theorem eq_apart_from_calls (h : r = { q with calls := r.calls }) :
    { r with calls := [] } = { q with calls := [] } := by
  rw [h]

/-- The order in which calls end makes no difference. Two completions can change places in every state, and where they
all have come, in whatever order and however they took turns, the queue is in the state that could be told beforehand.
The order in which calls start is no other either, as long as they start in the order of their slots. -/
theorem completion_order_irrelevant (limits : Config.Queue) :
    (∀ admitted q, Operated limits admitted q → Interchanges finishing q ∧
      ∀ outcome ids others r s, finishAll? outcome ids q = some r → finishAll? outcome others q = some s →
        r.live = [] → s.live = [] → r = s) ∧
    ∀ log q, Run attended (new limits) log q → q.isRunning = true →
      (q.isFree = true → Interchanges completing q) ∧
      ∀ outcome more r, Run (draining outcome) q more r → r.live = [] →
        { r.bare with calls := [] } = { q.drained outcome with calls := [] } ∧
        r.calls.Perm (q.calls ++ q.unstarted ++ q.pending) ∧
        (Run (fun q e => draining outcome q e ∧ serial q e) q more r → r.bare = q.drained outcome) := by
  constructor
  · intro admitted q h
    refine ⟨h.interchanges, fun outcome ids others r s hr hs hlr hls => ?_⟩
    have htasks {p : Queue} (hl : p.live = []) : p.tasks = [] := List.map_eq_nil_iff.mp (List.append_eq_nil_iff.mp hl).1
    exact h.finishAll?_unique hr hs (htasks hlr) (htasks hls)
  · intro log q h hr
    refine ⟨fun hf => h.interchanges hr hf, fun outcome more r hd hl => ?_⟩
    have hs := h.sound (.new limits)
    have hdrain := hd.drain hs hr
    have hbare := h.bare_of_drained hr hd hl
    have hdrained := hdrain.drained
    have hcalls := hdrain.calls
    rw [hbare] at hdrained hcalls
    refine ⟨?_, hcalls, fun hserial => ?_⟩
    · exact eq_apart_from_calls (q := q.drained outcome) hdrained
    · rw [← hbare]
      exact hserial.drained_of_serial hs hr

/-- A call panics, and its task goes through to the answer. -/
def panicking (id : Nat) (launches : List Event) : List Event :=
  [.act (.finish id .panic), .act (.countEnd id), .act (.countFailure id), .act (.release id)] ++ launches ++
    [.act (.reply id)]

theorem completion_order_irrelevant_crowded :
    (∃ admitted q r, Operated ⟨2, 2⟩ admitted q ∧ q.running.map Task.id = [1, 2] ∧ q.pending.map Admitted.id = [3, 4] ∧
      (q.finishing 1 .panic).finishing 2 .panic = (q.finishing 2 .panic).finishing 1 .panic ∧
      finishAll? (fun _ => .panic) [1, 2, 3, 4] q = some r ∧ finishAll? (fun _ => .panic) [2, 3, 1, 4] q = some r ∧
      r.calls.map Admitted.id = [1, 2, 3, 4]) ∧
    ∃ log q more r, (new ⟨1, 1⟩).play? (overtaking.take 6) = some (log, q) ∧
      q.play? (panicking 2 [.act (.spawn (.release 2))] ++ .act (.start 1) :: panicking 1 []) = some (more, r) ∧
      r.calls.map Admitted.id = [2, 1] ∧ Interchanges completing q ∧ r.bare = q.drained fun _ => .panic := by
  constructor
  · obtain ⟨admitted, q, h, hrun, hp, ⟨r, hr, hlr, hc⟩, s, hs, hls⟩ : ∃ admitted q, Operated ⟨2, 2⟩ admitted q ∧
        q.running.map Task.id = [1, 2] ∧ q.pending.map Admitted.id = [3, 4] ∧
        (∃ r, finishAll? (fun _ => .panic) [1, 2, 3, 4] q = some r ∧ r.live = [] ∧
          r.calls.map Admitted.id = [1, 2, 3, 4]) ∧
        ∃ s, finishAll? (fun _ => .panic) [2, 3, 1, 4] q = some s ∧ s.live = [] :=
      ⟨_, _, .operate none (.submit plainJob) (.operate none (.submit plainJob) (.operate none (.submit plainJob)
        (.operate none (.submit plainJob) .new))), rfl, rfl, ⟨_, rfl, rfl, rfl⟩, _, rfl, rfl⟩
    have hone : q.stage? 1 = some .calling := (finishAll?_cons_eq_some.mp hr).1
    have htwo : q.stage? 2 = some .calling := (finishAll?_cons_eq_some.mp hs).1
    obtain ⟨hswap, hunique⟩ := (completion_order_irrelevant ⟨2, 2⟩).1 admitted q h
    obtain rfl := hunique _ _ _ r s hr hs hlr hls
    exact ⟨admitted, q, r, h, hrun, hp, hswap.swap 1 2 _ _ (by decide) hone htwo, hr, hs, hc⟩
  · obtain ⟨log, q, h, hr, hf, m₁, p₁, h₁, hfirst, p₂, hstart, m₃, r, h₃, hlr, hc⟩ : ∃ log q,
        (new ⟨1, 1⟩).play? (overtaking.take 6) = some (log, q) ∧ q.isRunning = true ∧ q.isFree = true ∧ ∃ m₁ p₁,
        q.play? (panicking 2 [.act (.spawn (.release 2))]) = some (m₁, p₁) ∧
        p₁.unstarted.head?.map Admitted.id = some 1 ∧ ∃ p₂, p₁.step? (.act (.start 1)) = some p₂ ∧ ∃ m₃ r,
        p₂.play? (panicking 1 []) = some (m₃, r) ∧ r.live = [] ∧ r.calls.map Admitted.id = [2, 1] :=
      ⟨_, _, rfl, rfl, rfl, _, _, rfl, rfl, _, rfl, _, _, rfl, rfl, rfl⟩
    have hrun : Run attended (new ⟨1, 1⟩) log q := run_of_play? (by simp [overtaking, attended]) h
    have hpanics (id : Nat) (launches : List Event) (hl : launches = [] ∨ launches = [.act (.spawn (.release 2))]) :
        ∀ e ∈ panicking id launches, ∀ q, draining (fun _ => .panic) q e ∧ serial q e := by
      obtain rfl | rfl := hl <;> simp [panicking, draining, Event.drains, Event.unwinds, serial, attended]
    have hserial : serial p₁ (.act (.start 1)) := ⟨by simp [attended], by simp [hfirst]⟩
    have hd := ((run_of_play? (hpanics 2 _ (.inr rfl)) h₁).trans
      (.single (e := .act (.start 1)) ⟨rfl, hserial⟩ hstart)).trans (run_of_play? (hpanics 1 _ (.inl rfl)) h₃)
    obtain ⟨hswap, hdrain⟩ := (completion_order_irrelevant ⟨1, 1⟩).2 log q hrun hr
    obtain ⟨-, -, hbare⟩ := hdrain _ _ r (hd.mono fun _ _ he => he.1) hlr
    have hrest : p₁.play? (.act (.start 1) :: panicking 1 []) = some (p₁.signs (.act (.start 1)) ++ m₃, r) := by
      simp only [play?, hstart, h₃, Option.bind_eq_bind, Option.bind_some]
    exact ⟨log, q, _, r, h, play?_append h₁ hrest, hc, hswap hf, hbare hd⟩

end Turnstile.Queue
