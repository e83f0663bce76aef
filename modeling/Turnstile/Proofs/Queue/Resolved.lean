import Mathlib
import Turnstile.Proofs.Queue.Closing
import Turnstile.Proofs.Queue.Snapshots
import Turnstile.Proofs.Queue.Tickets

namespace Turnstile.Queue

variable {p q r : Queue} {e : Event} {es more : List Event} {log signs : List Sign} {id : Nat} {a : Admitted}
  {limits : Config.Queue} {P : Launcher → Prop}

structure Past (P : Launcher → Prop) (a : Admitted) (q : Queue) : Prop where
  drawn : a.id ∉ q.drawn
  lt : a.id < q.nextId
  pending : ∀ b ∈ q.pending, b.id ≠ a.id
  claimed : ∀ t ∈ q.tasks, t.id = a.id → ∀ launcher, t.stage = .claimed launcher → P launcher

namespace Past

theorem of_eq (h : Past P a q) (hd : r.drawn = q.drawn) (hn : r.nextId = q.nextId) (hp : r.pending = q.pending)
    (ht : r.tasks = q.tasks) : Past P a r :=
  ⟨hd ▸ h.drawn, hn ▸ h.lt, hp ▸ h.pending, ht ▸ h.claimed⟩

theorem setStage (h : Past P a q) (id : Nat) {s : Stage} (hs : ∀ launcher, s ≠ .claimed launcher) :
    Past P a (q.setStage id s) := by
  refine ⟨h.drawn, h.lt, h.pending, fun u hu hid launcher hst => ?_⟩
  obtain ⟨t, ht, rfl⟩ := List.mem_map.mp hu
  by_cases he : t.id = id
  · rw [if_pos he] at hst
    exact absurd hst (hs launcher)
  · rw [if_neg he] at hid hst
    exact h.claimed t ht hid launcher hst

theorem removeTask (h : Past P a q) (id : Nat) : Past P a (q.removeTask id) :=
  ⟨h.drawn, h.lt, h.pending, fun t ht => h.claimed t (List.mem_filter.mp ht).1⟩

end Past

theorem Move.past (h : Move q signs r) (ha : Past P a q) : Past P a r := by
  cases h with
  | unseen | noRuntime | countRefusal | dropTicket | take => exact ha.of_eq rfl rfl rfl rfl
  | draw =>
    refine ⟨fun hm => ?_, Nat.lt_succ_of_lt ha.lt, ha.pending, ha.claimed⟩
    obtain hm | hm := List.mem_append.mp hm
    · exact ha.drawn hm
    · exact Nat.ne_of_lt ha.lt (List.mem_singleton.mp hm)
  | @enter id job hid =>
    refine ⟨fun hm => ha.drawn (List.mem_of_mem_erase hm), ha.lt, fun b hb => ?_, ha.claimed⟩
    obtain hb | hb := List.mem_append.mp hb
    · exact ha.pending b hb
    · obtain rfl := List.mem_singleton.mp hb
      rintro rfl
      exact ha.drawn hid
  | refuse => exact ⟨fun hm => ha.drawn (List.mem_of_mem_erase hm), ha.lt, ha.pending, ha.claimed⟩
  | @grant b rest launcher hp =>
    have hpending := ha.pending
    rw [hp] at hpending
    refine ⟨ha.drawn, ha.lt, fun c hc => hpending c (List.mem_cons_of_mem _ hc), fun t ht hid => ?_⟩
    obtain ht | ht := List.mem_append.mp ht
    · exact ha.claimed t ht hid
    · cases List.mem_singleton.mp ht
      exact absurd hid (hpending b List.mem_cons_self)
  | @spawn t => exact ha.setStage t.id fun _ => Stage.noConfusion
  | @start t => exact (ha.setStage t.id (s := .calling) fun _ => Stage.noConfusion).of_eq rfl rfl rfl rfl
  | @finish t o => exact ha.setStage t.id fun _ => Stage.noConfusion
  | @countEnd t o => exact (ha.setStage t.id (s := .counted o) fun _ => Stage.noConfusion).of_eq rfl rfl rfl rfl
  | @countFailure t o =>
    rw [countFailure_eq]
    exact (ha.setStage t.id (s := .recorded o) fun _ => Stage.noConfusion).of_eq rfl rfl rfl rfl
  | @free t o => exact (ha.setStage t.id (s := .released o) fun _ => Stage.noConfusion).of_eq rfl rfl rfl rfl
  | @reply t | @depart t => exact (ha.removeTask t.id).of_eq rfl rfl rfl rfl
  | @abandon t how s _ hl =>
    have hs : ∀ launcher, s ≠ .claimed launcher := fun launcher he => by simpa [he, Stage.isLeaving] using hl.isLeaving
    exact (ha.setStage t.id hs).of_eq rfl rfl rfl rfl

theorem Moves.past (h : Moves q signs r) (ha : Past P a q) : Past P a r := by
  induction h with
  | refl => exact ha
  | move _ m ih => exact m.past ih

theorem past_of_claim {launcher : Launcher} {rest : List Admitted} (hd : Distinct q) (hr : q.isRunning = true)
    (hs : q.inFlight < q.slots) (hp : q.pending = a :: rest) :
    ⟨a, .claimed launcher⟩ ∈ (q.claim launcher).tasks ∧ Past (· = launcher) a (q.claim launcher) := by
  have hids := (List.nodup_append.mp hd.nodup).2.1
  rw [live, hp, List.map_append, List.map_cons] at hids
  have hwaits : a ∈ q.pending := by simp [hp]
  have hlive := mem_live_of_pending hwaits
  have hrest : ∀ b ∈ rest, b.id ≠ a.id := fun b hb he =>
    (List.nodup_cons.mp (List.nodup_append.mp hids).2.1).1 (he ▸ List.mem_map_of_mem hb)
  obtain ⟨n, hn⟩ : ∃ n, min (q.slots - q.inFlight) (rest.length + 1) = n + 1 :=
    ⟨min (q.slots - q.inFlight) (rest.length + 1) - 1, by omega⟩
  have hpending : (q.claim launcher).pending = rest.drop n := by
    rw [pending_claim hr, hp, List.length_cons, hn, List.drop_succ_cons]
  have htasks : (q.claim launcher).tasks = q.tasks ++ (a :: rest.take n).map fun a => ⟨a, .claimed launcher⟩ := by
    rw [tasks_claim hr, hp, List.length_cons, hn, List.take_succ_cons]
  have hnumbers : (q.claim launcher).drawn = q.drawn ∧ (q.claim launcher).nextId = q.nextId := by
    rw [claim, if_pos hr]
    exact ⟨rfl, rfl⟩
  refine ⟨by simp [htasks], ?_, ?_, fun b hb => hrest b ?_, fun u hu hid other hst => ?_⟩
  · rw [hnumbers.1]
    exact fun hm => hd.ne_of_mem_drawn hm hlive rfl
  · rw [hnumbers.2]
    exact hd.lt _ (List.mem_append_right _ (List.mem_map_of_mem hlive))
  · rw [hpending] at hb
    exact List.mem_of_mem_drop hb
  · rw [htasks] at hu
    obtain hu | hu := List.mem_append.mp hu
    · exact absurd hid.symm (hd.pending_ne hu hwaits)
    · obtain ⟨b, -, rfl⟩ := List.mem_map.mp hu
      cases hst
      rfl

theorem past_of_release {rest : List Admitted} (hd : Distinct p) (hb : Balanced p)
    (h : p.step? (.act (.release id)) = some q) (hp : p.pending = a :: rest) :
    ⟨a, .claimed (.release id)⟩ ∈ q.tasks ∧ Past (· = .release id) a q := by
  simp only [step?, act?, Option.map_eq_some_iff] at h
  obtain ⟨x, h, rfl⟩ := h
  split at h
  case h_2 => cases h
  case h_1 o hs =>
  simp only [Option.ite_none_right_eq_some, Option.some.injEq, Bool.and_eq_true] at h
  obtain ⟨⟨hr, -⟩, rfl⟩ := h
  obtain ⟨t, ht, rfl, hst⟩ := exists_task_of_stage? hs
  have hdistinct : Distinct (p.free t.id o) := Move.distinct (.free ht hst) hd
  -- There is a slot to hand out, since one has just been given back.
  have hslot : (p.free t.id o).inFlight < (p.free t.id o).slots := by
    have hpos : 1 ≤ p.inFlight := hb.inFlight_pos ht (by rw [hst]; rfl)
    have hslots := hb.slots
    change p.inFlight - 1 < p.slots
    omega
  exact past_of_claim hdistinct hr hslot hp

theorem past_of_reply (h : p.step? (.act (.reply id)) = some q) (ha : Past (· = .release id) a p) :
    Past (fun _ => False) a q := by
  have hq := (moves_of_step h).past ha
  refine ⟨hq.drawn, hq.lt, hq.pending, fun t ht hid launcher hst => ?_⟩
  obtain rfl : launcher = .release id := hq.claimed t ht hid launcher hst
  simp only [step?, act?, Option.map_eq_some_iff] at h
  obtain ⟨x, h, rfl⟩ := h
  split at h
  case h_2 => cases h
  case h_1 o hs =>
  simp only [Option.ite_none_right_eq_some, Option.some.injEq, List.isEmpty_iff] at h
  obtain ⟨hempty, rfl⟩ := h
  have hm : t.id ∈ p.claimedBy (.release id) := by
    refine List.mem_map_of_mem (List.mem_filter.mpr ⟨(List.mem_filter.mp ht).1, decide_eq_true hst⟩)
  rw [hempty] at hm
  cases hm

/-- Where the freed slot has gone: when it was given back, whoever had waited longest got it, and by now has long been
started. -/
def HandedOn (limits : Config.Queue) (es : List Event) (id : Nat) (q : Queue) : Prop :=
  ∃ before after log p r, es = before ++ .act (.release id) :: after ∧ (new limits).play? before = some (log, p) ∧
    p.step? (.act (.release id)) = some r ∧ ∀ a rest, p.pending = a :: rest →
      ⟨a, .claimed (.release id)⟩ ∈ r.tasks ∧ a ∉ q.pending ∧
        ∀ t ∈ q.tasks, t.admitted = a → ∀ launcher, t.stage ≠ .claimed launcher

theorem handedOn_of_closing {o : Outcome} (h : (new limits).play? es = some (log, q))
    (hc : closingsOf id es = closing id o) : HandedOn limits es id q := by
  have hsplit : closingsOf id es = [.act (.finish id o), .act (.countEnd id), .act (.countFailure id)] ++
      [.act (.release id), .act (.reply id)] := hc
  obtain ⟨before, later, rfl, -, hlater⟩ := List.filter_eq_append_iff.mp hsplit
  obtain ⟨next, rest, rfl, -, -, hrest⟩ := List.filter_eq_cons_iff.mp hlater
  obtain ⟨between, after, rfl, -, -, -⟩ := List.filter_eq_cons_iff.mp hrest
  have hjoined : (new limits).play? ((before ++ next) ++
      .act (.release id) :: (between ++ .act (.reply id) :: after)) = some (log, q) := by simpa using h
  obtain ⟨first, p, second, hp, hsecond, rfl⟩ := exists_play?_of_append hjoined
  simp only [play?, Option.bind_eq_bind, Option.bind_eq_some_iff, Option.some.injEq, Prod.mk.injEq] at hsecond
  obtain ⟨r, hr, ⟨third, u⟩, hthird, -, rfl⟩ := hsecond
  obtain ⟨fourth, s, fifth, hs, hfifth, -⟩ := exists_play?_of_append hthird
  simp only [play?, Option.bind_eq_bind, Option.bind_eq_some_iff, Option.some.injEq, Prod.mk.injEq] at hfifth
  obtain ⟨v, hv, ⟨sixth, w⟩, hsixth, -, rfl⟩ := hfifth
  refine ⟨before ++ next, between ++ .act (.reply id) :: after, first, p, r, by simp, hp, hr, fun a rest ha => ?_⟩
  have hm := moves_of_play? hp
  have hd : Distinct p := hm.distinct (distinct_new limits)
  have hb : Balanced p := hm.balanced (distinct_new limits) (.new limits)
  obtain ⟨hclaimed, hpast⟩ := past_of_release hd hb hr ha
  have hlast := (moves_of_play? hsixth).past (past_of_reply hv ((moves_of_play? hs).past hpast))
  exact ⟨hclaimed, fun hw => hlast.pending a hw rfl, fun t ht he launcher hst =>
    hlast.claimed t ht (congrArg Admitted.id he) launcher hst⟩

structure Played (es : List Event) (log : List Sign) (q : Queue) : Prop where
  told : Told log q
  known : Known log
  balanced : Balanced q
  ticketed : Ticketed log q
  closings : Closings es log q

theorem played (h : (new limits).play? es = some (log, q)) : Played es log q where
  told := (moves_of_play? h).told (.new limits)
  known := (moves_of_play? h).known (.new limits) .nil
  balanced := (moves_of_play? h).balanced (distinct_new limits) (.new limits)
  ticketed := (moves_of_play? h).ticketed (.new limits) (.new limits)
  closings := (Closings.new limits).play? (.new limits) h

theorem closingsOf_eq_nil (h : (new limits).play? es = some (log, q)) (hn : ∀ o, .ended id o ∉ log) :
    closingsOf id es = [] := by
  obtain ⟨o, ho⟩ := (played h).closings.begun id
  cases hl : closingsOf id es with
  | nil => rfl
  | cons e more =>
    obtain rfl : e = .act (.finish id o) := by
      rw [hl, closing, List.cons_prefix_cons] at ho
      exact ho.1
    have hmem : .act (.finish id o) ∈ closingsOf id es := by simp [hl]
    exact absurd (ended_of_finish h (mem_closingsOf.mp hmem).1) (hn o)

structure Accounted (es : List Event) (q : Queue) (id : Nat) (o : Outcome) : Prop where
  order : closingsOf id es = closing id o
  completed : q.totals.completed = (countedIn es).length
  counted : (countedIn es).Nodup ∧ id ∈ countedIn es
  failed : q.totals.failed = (failedIn es).length
  failure : (failedIn es).Nodup ∧ (id ∈ failedIn es ↔ o.isFailure = true)
  inFlight : q.inFlight = q.holding.length
  free : ∀ t ∈ q.tasks, t.id ≠ id

theorem Closings.accounted {x : Http.Response} (h : Closings es log q) (hb : Balanced q) (ht : Told log q)
    (hx : .answered id x ∈ log) : ∃ o, x = o.answer ∧ Accounted es q id o := by
  obtain ⟨o, rfl, ho⟩ := h.answered id x hx
  have hstep {e : Event} (he : e ∈ closing id o) : e ∈ es := (mem_closingsOf.mp (ho ▸ he)).1
  refine ⟨o, rfl, ho, h.completed, ⟨nodup_doneIn closes?_countEnd h.begun, ?_⟩, h.failed,
    ⟨(nodup_doneIn closes?_countFailure h.begun).filter _, ?_⟩, hb.inFlight.trans (length_holding q).symm, ?_⟩
  · exact (mem_doneIn closes?_countEnd).mpr (hstep (by simp [closing]))
  · have hrecorded : id ∈ doneIn .countFailure es :=
      (mem_doneIn closes?_countFailure).mpr (hstep (by simp [closing]))
    rw [failedIn, List.mem_filter, and_iff_right hrecorded, fails_iff]
    constructor
    · rintro ⟨o', hm, hf⟩
      have hm : .act (.finish id o') ∈ closingsOf id es := mem_closingsOf.mpr ⟨hm, rfl⟩
      obtain rfl : o' = o := by simpa [ho, closing] using hm
      exact hf
    · exact fun hf => ⟨o, hstep (by simp [closing]), hf⟩
  · exact ht.id_ne_of_answered hx

structure Includes (es more : List Event) (r : Queue) (id : Nat) (o : Outcome) (s : Snapshot) : Prop where
  inFlight : s.inFlight = r.holding.length ∧ ∀ t ∈ r.holding, t.id ≠ id
  completed : ∃ counted : List Nat, s.completed = UInt64.ofNat counted.length ∧ counted.Nodup ∧ id ∈ counted ∧
    countedIn es <+: counted ∧ counted <+: countedIn (es ++ more)
  failed : s.failed = UInt64.ofNat (failedIn (es ++ more)).length ∧
    (id ∈ failedIn (es ++ more) ↔ o.isFailure = true)

def ReadSince (p : Queue) (es : List Event) (q : Queue) : Prop :=
  p.totals.Le q.totals ∧ (.act .lock ∈ es → q.reading.Covers p q)

theorem ReadSince.step (h : ReadSince p es q) (hs : q.step? e = some r) : ReadSince p (es ++ [e]) r := by
  obtain ⟨hle, hc⟩ := h
  refine ⟨hle.trans (moves_of_step hs).totals_le, fun hm => ?_⟩
  obtain hm | hm := List.mem_append.mp hm
  · exact (hc hm).step hle hs
  · obtain rfl := List.mem_singleton.mp hm
    obtain ⟨⟨_, x⟩, hact, rfl⟩ := Option.map_eq_some_iff.mp hs
    exact Reading.covers_of_lock p hact

theorem readSince_of_play? (h : q.play? more = some (signs, r)) : ReadSince q more r := by
  have hstart : ReadSince q [] q := ⟨.refl _, fun hm => nomatch hm⟩
  exact @invariant_of_play? q r [] more [] (fun es _ r => ReadSince q es r) (fun _ _ _ _ _ hq hs => hq.step hs) signs h
    hstart

theorem Accounted.includes {o : Outcome} {u : Queue} {s : Snapshot} (h : Accounted es q id o)
    (hr : Accounted (es ++ more) r id o) (hc : r.reading.Covers q r) (hs : r.act? .loadFailed = some (u, some s)) :
    Includes es more r id o s := by
  obtain ⟨j, c, -, rfl, -, -, hold, hnew⟩ := hc.taken hs
  constructor
  case inFlight => exact ⟨hr.inFlight, fun t ht => hr.free t (List.mem_filter.mp ht).1⟩
  case failed => exact ⟨by rw [← hr.failed], hr.failure.2⟩
  case completed =>
    rw [h.completed] at hold
    rw [hr.completed] at hnew
    have hfirst : countedIn es <+: (countedIn (es ++ more)).take c := by
      rw [countedIn, countedIn, doneIn_append]
      exact List.prefix_take_iff.mpr ⟨List.prefix_append _ _, hold⟩
    refine ⟨(countedIn (es ++ more)).take c, ?_, hr.counted.1.sublist (List.take_sublist _ _),
      hfirst.subset h.counted.2, hfirst, List.take_prefix _ _⟩
    rw [List.length_take, Nat.min_eq_left hnew]

/-- All that holds once the answer of a job is there, and from then on: the job is in the books, its slot was handed on
to the first in line, and every snapshot begun after that shows it. -/
structure Concluded (limits : Config.Queue) (es : List Event) (q : Queue) (id : Nat) (o : Outcome) : Prop where
  accounted : Accounted es q id o
  handedOn : HandedOn limits es id q
  stays : ∀ more signs r, q.play? more = some (signs, r) → Accounted (es ++ more) r id o
  seen : ∀ more signs r u s, q.play? more = some (signs, r) → .act .lock ∈ more →
    r.act? .loadFailed = some (u, some s) → Includes es more r id o s

theorem concluded_of_answered {x : Http.Response} (h : (new limits).play? es = some (log, q))
    (hx : .answered id x ∈ log) : ∃ o, x = o.answer ∧ .ended id o ∈ log ∧ Concluded limits es q id o := by
  obtain ⟨ht, -, hb, -, hc⟩ := played h
  obtain ⟨o, rfl, ho⟩ := hc.accounted hb ht hx
  have hended {more : List Event} {signs : List Sign} {r : Queue} {u : Outcome} (hu : Accounted more r id u)
      (hr : (new limits).play? more = some (signs, r)) : .ended id u ∈ signs := by
    have hfinish : .act (.finish id u) ∈ closingsOf id more := by simp [hu.order, closing]
    exact ended_of_finish hr (mem_closingsOf.mp hfinish).1
  have hlater (more : List Event) (signs : List Sign) (r : Queue) (hr : q.play? more = some (signs, r)) :
      Accounted (es ++ more) r id o := by
    obtain ⟨ht', hk', hb', -, hc'⟩ := played (play?_append h hr)
    obtain ⟨o', -, ho'⟩ := hc'.accounted hb' ht' (List.mem_append_left signs hx)
    have hlast := hended ho' (play?_append h hr)
    have hfirst : .ended id o ∈ log ++ signs := List.mem_append_left signs (hended ho h)
    obtain rfl := ht'.ended_inj hk' hfirst hlast
    exact ho'
  refine ⟨o, rfl, hended ho h, ho, handedOn_of_closing h ho.order, hlater, fun more signs r u s hr hl hs => ?_⟩
  exact ho.includes (hlater more signs r hr) ((readSince_of_play? hr).2 hl) hs

theorem Told.crashed_cases (h : Told log q) (hk : Known log) (hl : .lost id .crashed ∈ log) :
    ∃ a, .admitted a ∈ log ∧ a.id = id ∧
      ((∃ t ∈ q.tasks, t.admitted = a ∧ t.stage = .crashed ∧ story id log = Stage.crashed.told a) ∨
        (∀ t ∈ q.tasks, t.id ≠ id) ∧ story id log = Stage.crashed.told a ++ [.freed a.id]) := by
  obtain ⟨a, ha, rfl, hs, -⟩ := h.tale_of_mem hk hl rfl nofun
  have hstage {s : Stage} (hm : .lost a.id .crashed ∈ s.told a) : s = .crashed := by
    cases s with
    | discarded called => cases called <;> simp [Stage.told] at hm
    | crashed => rfl
    | _ => simp [Stage.told] at hm
  refine ⟨a, ha, rfl, ?_⟩
  obtain ⟨-, he⟩ | ⟨t, ht, rfl, he⟩ | hover := h.cases ha
  · simp [he] at hs
  · rw [he] at hs ⊢
    exact .inl ⟨t, ht, rfl, hstage hs, by rw [hstage hs]⟩
  · have hgone : .freed a.id ∈ story a.id log := by
      generalize story a.id log = told at hs hover
      cases hover <;> simp [Stage.told]
    refine .inr ⟨fun t ht hid => ?_, ?_⟩
    · rw [← hid, h.standing _ _ (.task ht)] at hs hgone
      obtain rfl := h.eq_admitted ht ha hid.symm
      rw [hstage hs] at hgone
      simp [Stage.told] at hgone
    · generalize story a.id log = told at hs hover
      cases hover with
      | answered o => simp [Stage.told] at hs
      | lost s hi =>
        have hm : .lost a.id .crashed ∈ s.told a := by simpa using hs
        rw [hstage hm]

structure Omitted (es : List Event) (log : List Sign) (q : Queue) (id : Nat) : Prop where
  order : closingsOf id es = []
  completed : q.totals.completed = (countedIn es).length ∧ id ∉ countedIn es
  failed : q.totals.failed = (failedIn es).length ∧ id ∉ failedIn es
  inFlight : q.inFlight = q.holding.length ∧ ((∃ t ∈ q.holding, t.id = id) ↔ .freed id ∉ log)

theorem omitted_of_crashed (h : (new limits).play? es = some (log, q)) (hl : .lost id .crashed ∈ log) :
    Omitted es log q id := by
  obtain ⟨ht, hk, hb, -, hc⟩ := played h
  have hnone : closingsOf id es = [] :=
    closingsOf_eq_nil h fun o ho => ht.lost_notMem_of_ended hk ho .crashed hl
  have hundone {e : Event} (he : e.closes? = some id) : e ∉ es := fun hmem => by
    have hmem : e ∈ closingsOf id es := mem_closingsOf.mpr ⟨hmem, he⟩
    simp [hnone] at hmem
  constructor
  case order => exact hnone
  case completed => exact ⟨hc.completed, fun hmem => hundone rfl ((mem_doneIn closes?_countEnd).mp hmem)⟩
  case failed =>
    refine ⟨hc.failed, fun hmem => hundone rfl ((mem_doneIn closes?_countFailure).mp ?_)⟩
    exact (List.mem_filter.mp hmem).1
  case inFlight =>
    refine ⟨hb.inFlight.trans (length_holding q).symm, ?_⟩
    have hstory : .freed id ∈ log ↔ .freed id ∈ story id log := by simp [mem_story, Sign.subject?]
    obtain ⟨a, -, rfl, ⟨t, htm, rfl, hs, hst⟩ | ⟨hgone, hst⟩⟩ := ht.crashed_cases hk hl
    · rw [hstory, hst]
      refine iff_of_true ⟨t, List.mem_filter.mpr ⟨htm, by rw [hs]; rfl⟩, rfl⟩ (by simp [Stage.told])
    · rw [hstory, hst]
      refine iff_of_false ?_ (by simp)
      rintro ⟨t, htm, hid⟩
      exact hgone t (List.mem_filter.mp htm).1 hid

/-- How the call of a job is over: it has ended somehow, or it has panicked before there was anything to wait for. -/
inductive CallOver (id : Nat) (log : List Sign) : Outcome → Prop where
  | ended {o : Outcome} : .ended id o ∈ log → CallOver id log o
  | crashed : .lost id .crashed ∈ log → CallOver id log .panic

theorem Accounted.not_crashed {o : Outcome} (h : Accounted es q id o) (hp : (new limits).play? es = some (log, q)) :
    .lost id .crashed ∉ log := by
  intro hl
  have horder := h.order
  rw [(omitted_of_crashed hp hl).order] at horder
  cases horder

theorem Ticketed.verdict_of_poll {x : Http.Response} (h : Ticketed log q) (hx : (q.poll id).1 = some x) :
    Verdict log id x := by
  rw [poll_fst] at hx
  obtain ⟨s, hs, hx⟩ := Option.bind_eq_some_iff.mp hx
  obtain ⟨k, hk, rfl⟩ := Option.map_eq_some_iff.mp hs
  have hid : k.id = id := by simpa using List.find?_some hk
  exact hid ▸ (h.shown k (List.mem_of_find?_eq_some hk)).verdict hx

/-- When a caller has the answer of a call that is over, whatever else is going on, all steps to the close of the job
were done, once each and in their order: it is among the ends, and among the failures if it is one; its slot is free, and
was handed on to the first in line; all of that stays so, and every snapshot begun after that shows it. So it is unless
the call has crashed: then the answer is there before the slot is free, and the job is in no total, then or later. Who has
an answer and no call that is over has lost the job with the runtime. -/
theorem accounted_unless_crashed {x : Http.Response} (h : (new limits).play? es = some (log, q))
    (hx : (q.poll id).1 = some x) :
    (∀ o, CallOver id log o → x = o.answer ∧ (Concluded limits es q id o ↔ .lost id .crashed ∉ log) ∧
      (.lost id .crashed ∈ log →
        ∀ more signs r, q.play? more = some (signs, r) → Omitted (es ++ more) (log ++ signs) r id)) ∧
    ((∀ o, ¬CallOver id log o) ↔ .lost id .discarded ∈ log) := by
  obtain ⟨ht, hk, -, htickets, -⟩ := played h
  have hverdict : Verdict log id x := htickets.verdict_of_poll hx
  have hlost {o : Outcome} (ho : .ended id o ∈ log) (how : Loss) : .lost id how ∉ log :=
    ht.lost_notMem_of_ended hk ho how
  refine ⟨fun o ho => ?_, fun hn => ?_, fun hl o ho => ?_⟩
  · cases ho with
    | @ended o ho =>
      have hcrash : .lost id .crashed ∉ log := hlost ho .crashed
      obtain ⟨o', rfl, ho', hconcluded⟩ : ∃ o', x = o'.answer ∧ .ended id o' ∈ log ∧ Concluded limits es q id o' := by
        cases hverdict with
        | answered hy => exact concluded_of_answered h hy
        | lost hl => exact absurd hl (hlost ho _)
      obtain rfl := ht.ended_inj hk ho ho'
      exact ⟨rfl, iff_of_true hconcluded hcrash, fun hl => absurd hl hcrash⟩
    | crashed hl =>
      have hconcluded : ¬Concluded limits es q id .panic := fun hc => hc.accounted.not_crashed h hl
      refine ⟨?_, iff_of_false hconcluded (not_not_intro hl), fun _ more signs r hr => ?_⟩
      · cases hverdict with
        | answered hy =>
          obtain ⟨o, -, ho, -⟩ := concluded_of_answered h hy
          exact absurd hl (hlost ho .crashed)
        | lost => rfl
      · exact omitted_of_crashed (play?_append h hr) (List.mem_append_left signs hl)
  · cases hverdict with
    | answered hy =>
      obtain ⟨o, -, ho, -⟩ := concluded_of_answered h hy
      exact absurd (.ended ho) (hn o)
    | @lost how hl =>
      cases how with
      | discarded => exact hl
      | crashed => exact absurd (.crashed hl) (hn .panic)
  · cases ho with
    | ended ho => exact hlost ho .discarded hl
    | crashed hc => cases ht.lost_inj hk hl hc

def resolving : List Event := overtaking.take 13

def lookingOn : List Event := [.act .lock, .act .loadAdmitted, .act .loadRejected, .act .loadCompleted]

theorem accounted_unless_crashed_overtaking :
    ∃ log q, (new ⟨1, 1⟩).play? resolving = some (log, q) ∧ (q.poll 2).1 = some (Outcome.answer .panic) ∧
      Concluded ⟨1, 1⟩ resolving q 2 .panic ∧
      ∃ signs r u s, q.play? lookingOn = some (signs, r) ∧ r.act? .loadFailed = some (u, some s) ∧
        s = ⟨0, 1, 1, 1, 2, 0, 1, 1⟩ ∧ Includes resolving lookingOn r 2 .panic s := by
  obtain ⟨log, q, h, ho, hc, hx, hr⟩ : ∃ log q, (new ⟨1, 1⟩).play? resolving = some (log, q) ∧
      .ended 2 .panic ∈ log ∧ .lost 2 .crashed ∉ log ∧ (q.poll 2).1 = some (Outcome.answer .panic) ∧
        ∃ signs r u s, q.play? lookingOn = some (signs, r) ∧ r.act? .loadFailed = some (u, some s) ∧
          s = ⟨0, 1, 1, 1, 2, 0, 1, 1⟩ :=
    ⟨_, _, rfl, by decide, by decide, rfl, _, _, _, _, rfl, rfl, rfl⟩
  obtain ⟨signs, r, u, s, hplay, hlast, hs⟩ := hr
  have hconcluded := (((accounted_unless_crashed h hx).1 .panic (.ended ho)).2.1).mpr hc
  exact ⟨log, q, h, hx, hconcluded, signs, r, u, s, hplay, hlast, hs,
    hconcluded.seen lookingOn signs r u s hplay (by simp [lookingOn]) hlast⟩

def crashing : List Event := early.take 4

/-- The call is over and its answer is there. A snapshot begun now has the job in flight and its end not counted, and no
total ever tells of it. -/
theorem crashed_unaccounted : ∃ log q, (new ⟨1, 2⟩).play? crashing = some (log, q) ∧ CallOver 1 log .panic ∧
    (q.poll 1).1 = some (Outcome.answer .panic) ∧ ¬Accounted crashing q 1 .panic ∧
    (∃ signs r u, q.play? lookingOn = some (signs, r) ∧ r.act? .loadFailed = some (u, some ⟨0, 1, 1, 2, 1, 0, 0, 0⟩)) ∧
    ∀ more signs r, q.play? more = some (signs, r) →
      1 ∉ countedIn (crashing ++ more) ∧ 1 ∉ failedIn (crashing ++ more) := by
  obtain ⟨log, q, h, hl, hx, hr⟩ : ∃ log q, (new ⟨1, 2⟩).play? crashing = some (log, q) ∧
      .lost 1 .crashed ∈ log ∧ (q.poll 1).1 = some (Outcome.answer .panic) ∧
        ∃ signs r u, q.play? lookingOn = some (signs, r) ∧
          r.act? .loadFailed = some (u, some ⟨0, 1, 1, 2, 1, 0, 0, 0⟩) :=
    ⟨_, _, rfl, by decide, rfl, _, _, _, rfl, rfl⟩
  refine ⟨log, q, h, .crashed hl, hx, fun ho => ho.not_crashed h hl, hr, fun more signs r hmore => ?_⟩
  have hnow := omitted_of_crashed (play?_append h hmore) (List.mem_append_left signs hl)
  exact ⟨hnow.completed.2, hnow.failed.2⟩

end Turnstile.Queue
