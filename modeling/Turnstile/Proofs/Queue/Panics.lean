import Turnstile.Proofs.Queue.Recasting
import Turnstile.Proofs.Queue.Resolved
import Turnstile.Proofs.Queue.Restart

namespace Turnstile.Queue

variable {p q r : Queue} {e : Event} {es more : List Event} {log : List Sign} {id : Nat} {a : Admitted} {t : Task}
  {o : Outcome} {limits : Config.Queue}

theorem Told.cases_of_ended (h : Told log q) (hk : Known log) (ho : .ended id o ∈ log) :
    (∃ t ∈ q.tasks, t.id = id ∧ t.stage.outcome? = some o) ∨ ∃ a, .admitted a ∈ log ∧ a.id = id ∧
      story id log = (Stage.released o).told a ++ [.answered id o.answer] := by
  obtain ⟨a, ha, rfl, hs, -⟩ := h.tale_of_mem hk ho rfl nofun
  obtain ⟨-, he⟩ | ⟨t, ht, rfl, he⟩ | hover := h.cases ha
  · simp [he] at hs
  · rw [he] at hs
    refine .inl ⟨t, ht, rfl, ?_⟩
    cases hst : t.stage with
    | ended | counted | recorded | released => simpa [hst, Stage.told, Stage.outcome?, eq_comm] using hs
    | discarded called => cases called <;> simp [hst, Stage.told] at hs
    | claimed | spawned | calling | crashed => simp [hst, Stage.told] at hs
  · refine .inr ⟨a, ha, rfl, ?_⟩
    generalize story a.id log = told at hs hover
    cases hover with
    | answered o' =>
      obtain rfl : o' = o := by simpa [Stage.told, eq_comm] using hs
      rfl
    | lost s hl =>
      cases s with
      | discarded called => cases called <;> simp [Stage.told] at hs
      | crashed => simp [Stage.told] at hs
      | _ => cases hl

theorem Ticketed.state_of_over {s : TicketState} (h : Ticketed log q) (ht : Told log q) (ha : .admitted a ∈ log)
    (hv : a.id ∈ verdictsIn log) (hs : ∀ x, .answered a.id x ∈ log → s = .answered x)
    (hl : ∀ how, .lost a.id how ∈ log → s = .abandoned) : ∀ k ∈ q.tickets, k.id = a.id → k.state = s := by
  intro k hk hid
  have hshown := h.shown k hk
  rw [hid] at hshown
  generalize k.state = u at hshown
  cases hshown with
  | @waiting b hb hi =>
    obtain rfl := ht.eq_of_id_eq (ht.mem_live hb.live) ha hi
    exact absurd hv ((ht.owes_iff ha).mp hb)
  | answered hm => exact (hs _ hm).symm
  | abandoned hm => exact (hl _ hm).symm

theorem stage?_eq_none (h : ∀ t ∈ q.tasks, t.id ≠ id) : q.stage? id = none := by
  rw [stage?, Option.map_eq_none_iff, task?, List.find?_eq_none]
  exact fun t ht he => h t ht (eq_of_beq he)

theorem isRunning_of_mem (h : (new limits).play? es = some (log, q)) (ht : t ∈ q.tasks) : q.isRunning = true := by
  have hrun : Run (fun _ _ => True) (new limits) log q := run_of_play? (fun _ _ _ => trivial) h
  rw [← Bool.not_eq_false]
  intro hstopped
  rw [(hrun.deserted hstopped).1] at ht
  cases ht

def Event.isOwn (id : Nat) (e : Event) : Prop := e.closes? = some id ∨ e = .act (.spawn (.release id))

theorem exists_own_step (hd : Distinct q) (hr : q.isRunning = true) (hf : q.isFree = true) (ht : t ∈ q.tasks)
    (ho : t.stage.outcome? = some o) : ∃ e r, e.isOwn t.id ∧ e.unwinds = true ∧ q.step? e = some r := by
  have hst : q.stage? t.id = some t.stage := stage?_eq_some_iff.mpr ⟨t, hd.task?_eq_some ht, rfl⟩
  cases hs : t.stage with
  | claimed | spawned | calling | discarded | crashed =>
    rw [hs] at ho
    cases ho
  | ended o => exact ⟨.act (.countEnd t.id), _, .inl rfl, rfl, by simp only [step?, act?, hst, hs]; rfl⟩
  | counted o => exact ⟨.act (.countFailure t.id), _, .inl rfl, rfl, by simp only [step?, act?, hst, hs]; rfl⟩
  | recorded o =>
    exact ⟨.act (.release t.id), q.release t.id o, .inl rfl, rfl, by simp [step?, act?, hst, hs, hr, hf]⟩
  | released o =>
    cases hc : q.claimedBy (.release t.id) with
    | nil => exact ⟨.act (.reply t.id), q.reply t.id o, .inl rfl, rfl, by simp [step?, act?, hst, hs, hc]⟩
    | cons id ids =>
      exact ⟨.act (.spawn (.release t.id)), q.spawn (.release t.id) id, .inr rfl, rfl, by simp [step?, act?, hc, hr]⟩

theorem exists_closing (h : (new limits).play? es = some (log, q)) (hf : .act (.finish id o) ∈ es)
    (hfree : q.isFree = true) :
    ∃ more signs r, (∀ e ∈ more, e.isOwn id) ∧ q.play? more = some (signs, r) ∧ r.stage? id = none := by
  generalize hn : q.effort = n
  induction n using Nat.strongRecOn generalizing es log q with
  | _ n ih =>
    obtain ⟨ht, hk, -, -, -⟩ := played h
    obtain ⟨t, htm, rfl, ho⟩ | ⟨a, -, rfl, hover⟩ := ht.cases_of_ended hk (ended_of_finish h hf)
    · obtain ⟨e, p, hown, hunwinds, hp⟩ := exists_own_step ht.distinct (isRunning_of_mem h htm) hfree htm ho
      have hlt := (unwinds_of_step hunwinds hp).effort_lt ht.distinct
      have hreads : ∀ x, e = .act x → x.reads = false := by
        rintro x rfl
        obtain hc | hc := hown
        · cases x <;> simp [Event.closes?, Action.reads] at hc ⊢
        · cases hc
          rfl
      have hpfree : p.isFree = true := by rwa [isFree, reading_of_step hreads hp]
      have hone : q.play? [e] = some (q.signs e, p) := by simp [play?, hp]
      obtain ⟨more, signs, r, hmore, hplay, hgone⟩ := ih p.effort (hn ▸ hlt) (play?_append h hone)
        (List.mem_append_left _ hf) hpfree rfl
      exact ⟨e :: more, _, r, List.forall_mem_cons.mpr ⟨hown, hmore⟩, play?_append hone hplay, hgone⟩
    · have hanswered : Sign.answered a.id o.answer ∈ story a.id log := by simp [hover]
      exact ⟨[], [], q, by simp, rfl, stage?_eq_none (ht.id_ne_of_answered (mem_story.mp hanswered).1)⟩

/-- A job whose call has ended: the steps to its close are done in their order, none of them twice, and they can be done
whatever else is going on. Once they are done, the job is in the books, its slot has gone on, and its caller is told. -/
structure Contained (limits : Config.Queue) (es : List Event) (log : List Sign) (q : Queue) (id : Nat) (o : Outcome) :
    Prop where
  order : closingsOf id es <+: closing id o
  kept : q.stage? id = none ∨ (q.stage? id).bind Stage.outcome? = some o
  closes : q.isFree = true →
    ∃ more signs r, (∀ e ∈ more, e.isOwn id) ∧ q.play? more = some (signs, r) ∧ r.stage? id = none
  accounted : q.stage? id = none → Accounted es q id o ∧ HandedOn limits es id q
  told : q.stage? id = none → ∀ k ∈ q.tickets, k.id = id → k.state = .answered o.answer
  taken : ∀ x, .taken id x ∈ log → x = o.answer

theorem Stage.closings_prefix {s : Stage} (h : s.outcome? = some o) (id : Nat) : s.closings id <+: closing id o := by
  cases s with
  | claimed | spawned | calling | discarded | crashed => cases h
  | ended | counted | recorded | released =>
    cases h
    exact List.take_prefix _ _

theorem contained_of_finish (h : (new limits).play? es = some (log, q)) (hf : .act (.finish id o) ∈ es) :
    Contained limits es log q id o := by
  obtain ⟨ht, hk, hb, htickets, hc⟩ := played h
  have hended := ended_of_finish h hf
  have htaken : ∀ x, .taken id x ∈ log → x = o.answer := by
    intro x hx
    cases (htickets.taken _ x hx).2 with
    | answered hy => exact ht.answer_eq_of_ended hk hended hy
    | lost hy => exact absurd hy (ht.lost_notMem_of_ended hk hended _)
  obtain ⟨t, htm, rfl, ho⟩ | ⟨a, ha, rfl, hover⟩ := ht.cases_of_ended hk hended
  · have hst : q.stage? t.id = some t.stage := stage?_eq_some_iff.mpr ⟨t, ht.distinct.task?_eq_some htm, rfl⟩
    have hsome : q.stage? t.id ≠ none := by simp [hst]
    constructor
    case order => exact hc.reached _ _ (.task htm) ▸ Stage.closings_prefix ho t.id
    case kept => exact .inr (by rw [hst, Option.bind_some, ho])
    case closes => exact exists_closing h hf
    case accounted => exact fun hn => absurd hn hsome
    case told => exact fun hn => absurd hn hsome
    case taken => exact htaken
  · have hanswer {x : Http.Response} (hx : .answered a.id x ∈ log) : x = o.answer := by
      have hstory : Sign.answered a.id x ∈ story a.id log := mem_story.mpr ⟨hx, rfl⟩
      simpa [hover, Stage.told] using hstory
    have hanswered : .answered a.id o.answer ∈ log := by
      have hstory : Sign.answered a.id o.answer ∈ story a.id log := by simp [hover]
      exact (mem_story.mp hstory).1
    have hverdict : a.id ∈ verdictsIn log := mem_verdictsIn.mpr (.inl ⟨_, hanswered⟩)
    obtain ⟨o', -, hbooks⟩ := hc.accounted hb ht hanswered
    obtain rfl : o = o' := by
      have hstep : .act (.finish a.id o) ∈ closingsOf a.id es := mem_closingsOf.mpr ⟨hf, rfl⟩
      simpa [hbooks.order, closing] using hstep
    constructor
    case order => exact hbooks.order ▸ List.prefix_refl _
    case kept => exact .inl (stage?_eq_none (ht.id_ne_of_answered hanswered))
    case closes => exact exists_closing h hf
    case accounted => exact fun _ => ⟨hbooks, handedOn_of_closing h hbooks.order⟩
    case told =>
      refine fun _ => htickets.state_of_over ht ha hverdict (fun x hx => by rw [hanswer hx]) fun how hl => ?_
      have hstory : Sign.lost a.id how ∈ story a.id log := mem_story.mpr ⟨hl, rfl⟩
      simp [hover, Stage.told] at hstory
    case taken => exact htaken

theorem exists_task_of_crash (h : p.step? (.act (.crash id)) = some r) :
    ∃ t, p.task? t.id = some t ∧ t.id = id ∧ t.stage = .spawned ∧ p.isRunning = true ∧
      r = ((p.dequeue t.id).startTask t).abandon t.id .crashed := by
  obtain ⟨⟨u, x⟩, hact, rfl⟩ := Option.map_eq_some_iff.mp h
  simp only [act?, Option.ite_none_right_eq_some, Option.some.injEq, Prod.mk.injEq, Bool.and_eq_true,
    decide_eq_true_eq] at hact
  obtain ⟨⟨hr, hs⟩, rfl, -⟩ := hact
  obtain ⟨t, ht, hst⟩ := stage?_eq_some_iff.mp hs
  obtain ⟨-, rfl⟩ := task?_eq_some ht
  refine ⟨t, ht, rfl, hst, hr, ?_⟩
  rw [crash, start_eq (q := p.dequeue t.id) ht]

theorem step?_vacate (hr : q.isRunning = true) (hl : q.isLeaving id = true) (hf : q.isFree = true) :
    q.step? (.act (.vacate id)) = some (q.vacate id) := by
  simp [step?, act?, hr, hl, hf]

theorem past_of_vacate {rest : List Admitted} (hd : Distinct p) (hb : Balanced p)
    (h : p.step? (.act (.vacate id)) = some r) (hp : p.pending = a :: rest) :
    ⟨a, .claimed (.release id)⟩ ∈ r.tasks ∧ Past (· = .release id) a r := by
  obtain ⟨⟨u, x⟩, hact, rfl⟩ := Option.map_eq_some_iff.mp h
  simp only [act?, Option.ite_none_right_eq_some, Option.some.injEq, Prod.mk.injEq, Bool.and_eq_true] at hact
  obtain ⟨⟨⟨hr, hq⟩, -⟩, rfl, -⟩ := hact
  obtain ⟨t, hf, hl⟩ := isLeaving_iff.mp hq
  obtain ⟨ht, rfl⟩ := task?_eq_some hf
  have hdistinct : Distinct (p.depart t.id) := Move.distinct (.depart ht hl) hd
  have hslot : (p.depart t.id).inFlight < (p.depart t.id).slots := by
    have hpos : 1 ≤ p.inFlight := hb.inFlight_pos ht (holdsSlot_of_isLeaving hl)
    have hslots := hb.slots
    change p.inFlight - 1 < p.slots
    omega
  exact past_of_claim hdistinct hr hslot hp

theorem play?_closing (hc : q.stage? id = some .calling) (hr : q.isRunning = true) (hf : q.isFree = true)
    (o : Outcome) :
    ∃ signs, q.play? ((closing id o).take 4) = some (signs, (q.account id o).claim (.release id)) := by
  let ended := q.finish id o
  let counted := ended.countEnd id o
  let recorded := counted.countFailure id o
  have hended : ended.stage? id = some (.ended o) := stage?_setStage hc
  have hcounted : counted.stage? id = some (.counted o) := stage?_setStage hended
  have hrecorded : recorded.stage? id = some (.recorded o) ∧ recorded.isRunning = true ∧ recorded.isFree = true := by
    simp only [recorded, countFailure_eq]
    exact ⟨stage?_setStage hcounted, hr, hf⟩
  have hfinish : q.step? (.act (.finish id o)) = some ended := by
    simp only [step?, act?, hc, if_true, Option.map_some, ended]
  have hend : ended.step? (.act (.countEnd id)) = some counted := by
    simp only [step?, act?, hended, Option.map_some, counted]
  have hfailure : counted.step? (.act (.countFailure id)) = some recorded := by
    simp only [step?, act?, hcounted, Option.map_some, recorded]
  have hrelease : recorded.step? (.act (.release id)) = some ((q.account id o).claim (.release id)) := by
    rw [← free_countFailure]
    simp only [step?, act?, hrecorded, Bool.and_self, if_true, Option.map_some]
    rfl
  simp only [closing, List.take_succ_cons, List.take_zero, play?, hfinish, hend, hfailure, hrelease,
    Option.bind_eq_bind, Option.bind_some]
  exact ⟨_, rfl⟩

def untilReleased (id : Nat) (o : Outcome) : List Event := .act (.start id) :: (closing id o).take 4

theorem play?_untilReleased (ht : p.task? t.id = some t) (hs : t.stage = .spawned) (hr : p.isRunning = true)
    (hf : p.isFree = true) (o : Outcome) : ∃ signs, p.play? (untilReleased t.id o) =
      some (signs, (((p.dequeue t.id).startTask t).account t.id o).claim (.release t.id)) := by
  have hspawned : p.stage? t.id = some .spawned := stage?_eq_some_iff.mpr ⟨t, ht, hs⟩
  have hstart : p.step? (.act (.start t.id)) = some ((p.dequeue t.id).startTask t) := by
    simp [step?, act?, hr, hspawned, start_eq (q := p.dequeue t.id) ht]
  obtain ⟨signs, hrest⟩ := play?_closing (q := (p.dequeue t.id).startTask t)
    (stage?_setStage (q := p.dequeue t.id) hspawned) ((isRunning_startTask t.id t p).trans hr) hf o
  exact ⟨_, by simp only [untilReleased, play?, hstart, hrest, Option.bind_eq_bind, Option.bind_some]; rfl⟩

/-- A call that crashes, and whose task drops its slot at once, leaves behind what it would have left if it had ended in
some other way at the same moment, but for its end among the totals. -/
def Uncounted (p r : Queue) (id : Nat) (o : Outcome) : Prop :=
  ∃ signs s, p.play? (untilReleased id o) = some (signs, s) ∧ s.pending = r.pending ∧ s.inFlight = r.inFlight ∧
    s.tasks.filter (·.id ≠ id) = r.tasks ∧ s.totals.completed = r.totals.completed + 1 ∧
    s.totals.failed = r.totals.failed + if o.isFailure then 1 else 0

theorem uncounted_of_crash (hd : Distinct p) (h : p.step? (.act (.crash id)) = some r) (hfree : p.isFree = true) :
    r.step? (.act (.vacate id)) = some (r.vacate id) ∧ ∀ o, Uncounted p (r.vacate id) id o := by
  obtain ⟨t, hf, rfl, hs, hr, rfl⟩ := exists_task_of_crash h
  let c := (p.dequeue t.id).startTask t
  have hrun : c.isRunning = true := (isRunning_startTask t.id t p).trans hr
  have hcrashed : (c.abandon t.id .crashed).isRunning = true := (isRunning_abandon t.id .crashed c).trans hrun
  have hleaving : (c.abandon t.id .crashed).isLeaving t.id = true :=
    isLeaving_iff.mpr ⟨_, task?_setStage (s := .crashed) (task?_startTask hf), rfl⟩
  refine ⟨step?_vacate hcrashed hleaving hfree, fun o => ?_⟩
  obtain ⟨signs, hplay⟩ := play?_untilReleased hf hs hr hfree o
  have haccount : (c.account t.id o).isRunning = true := hrun
  have hdepart : ((c.abandon t.id .crashed).depart t.id).isRunning = true := hcrashed
  have hkept : (c.account t.id o).tasks.filter (·.id ≠ t.id) = ((c.abandon t.id .crashed).depart t.id).tasks :=
    (filter_setStage c t.id _).trans (tasks_depart_abandon c t.id .crashed).symm
  refine ⟨signs, _, hplay, ?_, ?_, ?_, ?_, ?_⟩
  · rw [vacate, pending_claim haccount, pending_claim hdepart]
    rfl
  · rw [vacate, inFlight_claim haccount, inFlight_claim hdepart]
    rfl
  · rw [vacate, tasks_claim haccount, tasks_claim hdepart, List.filter_append, hkept]
    refine congrArg _ (List.filter_eq_self.mpr fun u hu => ?_)
    obtain ⟨b, hb, rfl⟩ := List.mem_map.mp hu
    exact decide_eq_true (hd.pending_ne (task?_eq_some hf).1 (List.mem_of_mem_take hb))
  · rw [totals_vacate, totals_claim]
    rfl
  · rw [totals_vacate, totals_claim]
    rfl

inductive Crashed (log : List Sign) (q : Queue) (a : Admitted) : Prop where
  | leaving : story a.id log = [.admitted a, .called a, .lost a.id .crashed] → q.stage? a.id = some .crashed →
      Crashed log q a
  | gone : story a.id log = [.admitted a, .called a, .lost a.id .crashed, .freed a.id] → (∀ t ∈ q.tasks, t.id ≠ a.id) →
      Crashed log q a

/-- A job whose call has crashed. Its caller is told the same as if the call had failed, and its slot can be dropped at
any time and goes on as it would then; but the job is in none of the books. -/
structure Forgotten (limits : Config.Queue) (es : List Event) (log : List Sign) (q : Queue) (id : Nat) : Prop
    extends Omitted es log q id where
  story : ∃ a, a.id = id ∧ Crashed log q a
  goes : q.stage? id = some .crashed → q.isFree = true → ∃ r, q.step? (.act (.vacate id)) = some r
  alike : ∃ before after first p r, es = before ++ .act (.crash id) :: after ∧
    (new limits).play? before = some (first, p) ∧ p.step? (.act (.crash id)) = some r ∧
    (p.isFree = true → r.step? (.act (.vacate id)) = some (r.vacate id) ∧ ∀ o, Uncounted p (r.vacate id) id o)
  handedOn : .freed id ∈ log → ∃ before after first p r, es = before ++ .act (.vacate id) :: after ∧
    (new limits).play? before = some (first, p) ∧ p.step? (.act (.vacate id)) = some r ∧
    ∀ a rest, p.pending = a :: rest → ⟨a, .claimed (.release id)⟩ ∈ r.tasks ∧ a ∉ q.pending ∧
      ∀ t ∈ q.tasks, t.admitted = a → ∀ launcher, t.stage = .claimed launcher → launcher = .release id
  told : ∀ k ∈ q.tickets, k.id = id → k.state = .abandoned
  taken : ∀ x, .taken id x ∈ log → x = Outcome.answer .panic

theorem exists_split_of_sign {s : Sign} (h : q.play? es = some (log, r)) (hs : s ∈ log) :
    ∃ before e after first p u rest, es = before ++ e :: after ∧ q.play? before = some (first, p) ∧
      p.step? e = some u ∧ u.play? after = some (rest, r) ∧ log = first ++ (p.signs e ++ rest) ∧ s ∈ p.signs e := by
  induction es generalizing q log with
  | nil =>
    cases h
    cases hs
  | cons e es ih =>
    simp only [play?, Option.bind_eq_bind, Option.bind_eq_some_iff, Option.some.injEq, Prod.mk.injEq] at h
    obtain ⟨u, hu, ⟨more, v⟩, hmore, rfl, rfl⟩ := h
    obtain hs | hs := List.mem_append.mp hs
    · exact ⟨[], e, es, [], q, u, more, rfl, rfl, hu, hmore, rfl, hs⟩
    · obtain ⟨before, f, after, first, p, w, rest, rfl, hp, hw, hrest, rfl, hf⟩ := ih hmore hs
      exact ⟨e :: before, f, after, q.signs e ++ first, p, w, rest, rfl, by simp [play?, hu, hp], hw, hrest, by simp, hf⟩

theorem cases_of_freed (h : .freed id ∈ q.signs e) :
    e = .act (.release id) ∨ e = .act (.vacate id) ∨ e = .vacateOutside id := by
  have hsubmission (i : Nat) (job : Job) (x : Except Rejection Nat) : .freed id ≠ Sign.ofSubmission i job x := by
    unfold Sign.ofSubmission
    split <;> exact Sign.noConfusion
  cases e with
  | act a =>
    cases a with
    | release i | vacate i => simpa [signs, eq_comm] using h
    | submit i job => exact absurd (List.mem_singleton.mp h) (hsubmission _ _ _)
    | reply i =>
      simp only [signs] at h
      split at h <;> simp at h
    | _ => simp [signs, callSigns] at h
  | submitOutside job => exact absurd (List.mem_singleton.mp h) (hsubmission _ _ _)
  | vacateOutside i => simpa [signs, eq_comm] using h
  | _ => simp [signs] at h

theorem handedOn_of_crashed (h : (new limits).play? es = some (log, q)) (hl : .lost id .crashed ∈ log)
    (hf : .freed id ∈ log) : ∃ before after first p r, es = before ++ .act (.vacate id) :: after ∧
      (new limits).play? before = some (first, p) ∧ p.step? (.act (.vacate id)) = some r ∧
      ∀ a rest, p.pending = a :: rest → ⟨a, .claimed (.release id)⟩ ∈ r.tasks ∧ a ∉ q.pending ∧
        ∀ t ∈ q.tasks, t.admitted = a → ∀ launcher, t.stage = .claimed launcher → launcher = .release id := by
  obtain ⟨ht, hk, -, -, -⟩ := played h
  obtain ⟨before, e, after, first, p, r, rest, hes, hp, hr, hlater, hlog, hfreed⟩ := exists_split_of_sign h hf
  obtain ⟨hpt, -, hpb, -, -⟩ := played hp
  obtain rfl | rfl | rfl := cases_of_freed hfreed
  · -- The slot is not given back by a task whose call has ended.
    have hclosing : .act (.release id) ∈ closingsOf id es := mem_closingsOf.mpr ⟨by simp [hes], rfl⟩
    simp [(omitted_of_crashed h hl).order] at hclosing
  · refine ⟨before, after, first, p, r, hes, hp, hr, fun b later hb => ?_⟩
    obtain ⟨hclaimed, hpast⟩ := past_of_vacate hpt.distinct hpb hr hb
    have hnow := (moves_of_play? hlater).past hpast
    exact ⟨hclaimed, fun hw => hnow.pending b hw rfl, fun t htm he => hnow.claimed t htm (congrArg Admitted.id he)⟩
  · -- Nor by a task that was discarded.
    simp only [step?, Option.ite_none_right_eq_some, Bool.and_eq_true, decide_eq_true_eq] at hr
    obtain ⟨⟨⟨hl', -⟩, hcrashed⟩, -⟩ := hr
    obtain ⟨t, hf, hleaving⟩ := isLeaving_iff.mp hl'
    obtain ⟨htm, rfl⟩ := task?_eq_some hf
    have hst : t.stage ≠ .crashed := fun hs => hcrashed (stage?_eq_some_iff.mpr ⟨t, hf, hs⟩)
    obtain ⟨how, hhow⟩ := (t.stage.lost_mem_told t.admitted).mpr hleaving
    rw [← hpt.story_task htm] at hhow
    have hdiscarded : .lost t.id how ∈ log := hlog ▸ List.mem_append_left _ (mem_story.mp hhow).1
    obtain rfl := ht.lost_inj hk hl hdiscarded
    rw [hpt.story_task htm] at hhow
    cases hs : t.stage with
    | crashed => exact absurd hs hst
    | discarded called => cases called <;> simp [hs, Stage.told] at hhow
    | _ => simp [hs, Stage.told] at hhow

theorem forgotten_of_crash (h : (new limits).play? es = some (log, q)) (hc : .act (.crash id) ∈ es) :
    Forgotten limits es log q id := by
  obtain ⟨ht, hk, -, htickets, -⟩ := played h
  obtain ⟨before, after, first, p, r, rest, hes, hp, hr, -, hlog⟩ := exists_split_of_mem h hc
  have hlost : .lost id .crashed ∈ log := by simp [hlog, signs]
  obtain ⟨a, ha, rfl, hcases⟩ := ht.crashed_cases hk hlost
  have hverdict : a.id ∈ verdictsIn log := mem_verdictsIn.mpr (.inr ⟨_, hlost⟩)
  have hanswered (x : Http.Response) : .answered a.id x ∉ log := fun hx => by
    have hx : .answered a.id x ∈ Queue.story a.id log := mem_story.mpr ⟨hx, rfl⟩
    obtain ⟨-, -, -, -, hs⟩ | ⟨-, hs⟩ := hcases <;> simp [hs, Stage.told] at hx
  constructor
  case toOmitted => exact omitted_of_crashed h hlost
  case story =>
    refine ⟨a, rfl, ?_⟩
    obtain ⟨t, htm, rfl, hst, hs⟩ | ⟨hgone, hs⟩ := hcases
    · exact .leaving hs (stage?_eq_some_iff.mpr ⟨t, ht.distinct.task?_eq_some htm, hst⟩)
    · exact .gone hs hgone
  case goes =>
    intro hst hfree
    obtain ⟨t, hf, hs⟩ := stage?_eq_some_iff.mp hst
    have hr : q.isRunning = true := isRunning_of_mem h (task?_eq_some hf).1
    exact ⟨_, step?_vacate hr (isLeaving_iff.mpr ⟨t, hf, by rw [hs]; rfl⟩) hfree⟩
  case alike => exact ⟨before, after, first, p, r, hes, hp, hr, uncounted_of_crash (played hp).told.distinct hr⟩
  case handedOn => exact handedOn_of_crashed h hlost
  case told => exact htickets.state_of_over ht ha hverdict (fun x hx => absurd hx (hanswered x)) fun _ _ => rfl
  case taken =>
    intro x hx
    cases (htickets.taken _ x hx).2 with
    | answered hy => exact absurd hy (hanswered x)
    | lost => rfl

def insteadOfPanic (id : Nat) (e : CallError) (i : Nat) (o : Outcome) : Outcome :=
  if i = id ∧ o = .panic then .error e else o

theorem alike_insteadOfPanic (id : Nat) (e : CallError) : Alike (insteadOfPanic id e) := by
  constructor
  all_goals
    intro i o
    unfold insteadOfPanic
    split
    · next h =>
      rw [h.2]
      rfl
    · rfl

/-- A panic while there is something to wait for is the end of a call like any failure: the job is counted once, its
slot goes on once, its caller is told, and with a failure of another kind the run would have gone on as it did. A panic
before that leaves the books without the job; slot and caller fare as if the call had failed. -/
theorem panics_counted_unless_early (h : (new limits).play? es = some (log, q)) (id : Nat) :
    (.act (.finish id .panic) ∈ es → Contained limits es log q id .panic ∧
      ∀ e, (new limits).play? (es.map (Event.recast (insteadOfPanic id e))) =
        some (log.map (Sign.recast (insteadOfPanic id e)), q.recast (insteadOfPanic id e))) ∧
    (.act (.crash id) ∈ es → Forgotten limits es log q id) := by
  refine ⟨fun hf => ⟨contained_of_finish h hf, fun e => ?_⟩, forgotten_of_crash h⟩
  have hplay := play?_recast (alike_insteadOfPanic id e) (new limits) es
  rwa [h] at hplay

/-- The job was begun, its slot is free, and its ticket tells of a failure; but no total tells of it, then or later. -/
theorem early_panic_uncounted : ∃ log q, (new ⟨1, 2⟩).play? early = some (log, q) ∧ .called ⟨1, plainJob⟩ ∈ log ∧
    q.inFlight = 0 ∧ (q.poll 1).1 = some (Outcome.answer .panic) ∧ q.totals = ⟨1, 0, 0, 0⟩ ∧
    ∀ more signs r, q.play? more = some (signs, r) → 1 ∉ countedIn (early ++ more) ∧ 1 ∉ failedIn (early ++ more) := by
  obtain ⟨log, q, h, hfacts⟩ : ∃ log q, (new ⟨1, 2⟩).play? early = some (log, q) ∧ .called ⟨1, plainJob⟩ ∈ log ∧
      q.inFlight = 0 ∧ (q.poll 1).1 = some (Outcome.answer .panic) ∧ q.totals = ⟨1, 0, 0, 0⟩ :=
    ⟨_, _, rfl, List.mem_cons_of_mem _ List.mem_cons_self, rfl, rfl, rfl⟩
  obtain ⟨hcalled, hi, hp, ht⟩ := hfacts
  refine ⟨log, q, h, hcalled, hi, hp, ht, fun more signs r hr => ?_⟩
  have hc : .act (.crash 1) ∈ early ++ more := List.mem_append_left _ (by simp [early])
  have hforgotten := forgotten_of_crash (play?_append h hr) hc
  exact ⟨hforgotten.completed.2, hforgotten.failed.2⟩

def shaken : List Event :=
  occupied ++ [.act (.finish 1 .panic), .act (.countEnd 1), .act (.countFailure 1), .act (.release 1),
    .act (.spawn (.release 1)), .act (.reply 1), .act (.crash 2), .poll 2, .act (.vacate 2)]

theorem panics_counted_unless_early_shaken : ∃ log q, (new ⟨1, 1⟩).play? shaken = some (log, q) ∧
    q.totals = ⟨2, 0, 1, 1⟩ ∧ q.inFlight = 0 ∧ Contained ⟨1, 1⟩ shaken log q 1 .panic ∧
    Forgotten ⟨1, 1⟩ shaken log q 2 := by
  obtain ⟨log, q, h, ht, hi⟩ : ∃ log q, (new ⟨1, 1⟩).play? shaken = some (log, q) ∧ q.totals = ⟨2, 0, 1, 1⟩ ∧
      q.inFlight = 0 := ⟨_, _, rfl, rfl, rfl⟩
  obtain ⟨hcontained, -⟩ := panics_counted_unless_early h 1
  obtain ⟨-, hforgotten⟩ := panics_counted_unless_early h 2
  exact ⟨log, q, h, ht, hi, (hcontained (by simp [shaken])).1, hforgotten (by simp [shaken])⟩

end Turnstile.Queue
