import Turnstile.Proofs.Queue.Story

namespace Turnstile.Queue

variable {q r : Queue} {t : Task} {log more : List Sign} {id : Nat} {a : Admitted}

def verdict? : Sign → Option Nat
  | .answered id _ | .lost id _ => some id
  | _ => none

/-- The jobs whose fate is decided. -/
def verdictsIn (log : List Sign) : List Nat := log.filterMap verdict?

def takenIn (log : List Sign) : List Nat := log.filterMap fun | .taken id _ => some id | _ => none

/-- What the holder of a ticket is told of a job: the answer of its task, or that it got lost. -/
inductive Verdict (log : List Sign) (id : Nat) : Http.Response → Prop where
  | answered {r : Http.Response} : .answered id r ∈ log → Verdict log id r
  | lost {how : Loss} : .lost id how ∈ log → Verdict log id Refusal.unavailable.response

/-- The caller of the job is still to be told something. -/
def Owes (q : Queue) (a : Admitted) : Prop := a ∈ q.pending ∨ ∃ t ∈ q.tasks, t.admitted = a ∧ t.stage.isLeaving = false

namespace Owes

theorem live (h : q.Owes a) : a ∈ q.live := by
  obtain h | ⟨t, ht, rfl, -⟩ := h
  · exact mem_live_of_pending h
  · exact mem_live_of_task ht

theorem setStage {s : Stage} (h : q.Owes a) (hs : a.id = id → s.isLeaving = false) : (q.setStage id s).Owes a := by
  obtain h | ⟨t, ht, rfl, hl⟩ := h
  · exact .inl h
  · refine .inr ⟨_, List.mem_map_of_mem ht, ?_⟩
    by_cases hid : t.id = id
    · rw [if_pos hid]
      exact ⟨rfl, hs hid⟩
    · rw [if_neg hid]
      exact ⟨rfl, hl⟩

theorem removeTask (h : q.Owes a) (hid : a.id ≠ id) : (q.removeTask id).Owes a := by
  obtain h | ⟨t, ht, rfl, hl⟩ := h
  · exact .inl h
  · exact .inr ⟨t, List.mem_filter.mpr ⟨ht, decide_eq_true hid⟩, rfl, hl⟩

theorem grant {b : Admitted} {rest : List Admitted} (h : q.Owes a) (hp : q.pending = b :: rest) (launcher : Launcher) :
    (q.grant launcher b rest).Owes a := by
  obtain h | ⟨t, ht, ha, hl⟩ := h
  · obtain rfl | h := List.mem_cons.mp (hp ▸ h)
    · exact .inr ⟨_, List.mem_append_right _ (List.mem_singleton_self _), rfl, rfl⟩
    · exact .inl h
  · exact .inr ⟨t, List.mem_append_left _ ht, ha, hl⟩

end Owes

/-- The state of a ticket tells what has become of the job. -/
inductive Shown (log : List Sign) (q : Queue) (id : Nat) : TicketState → Prop where
  | waiting {a : Admitted} : q.Owes a → a.id = id → Shown log q id .waiting
  | answered {r : Http.Response} : .answered id r ∈ log → Shown log q id (.answered r)
  | abandoned {how : Loss} : .lost id how ∈ log → Shown log q id .abandoned

structure Ticketed (log : List Sign) (q : Queue) : Prop where
  nodup : (q.tickets.map Ticket.id).Nodup
  shown : ∀ k ∈ q.tickets, Shown log q k.id k.state
  taken : ∀ id r, .taken id r ∈ log → id ∉ q.tickets.map Ticket.id ∧ Verdict log id r
  once : (takenIn log).Nodup
  kept : ∀ a, .admitted a ∈ log → a.id ∈ q.tickets.map Ticket.id ∨ .dropped a.id ∈ log ∨ a.id ∈ takenIn log

theorem Verdict.append {x : Http.Response} (h : Verdict log id x) (more : List Sign) : Verdict (log ++ more) id x := by
  cases h with
  | answered h => exact .answered (List.mem_append_left _ h)
  | lost h => exact .lost (List.mem_append_left _ h)

theorem Shown.verdict {s : TicketState} {x : Http.Response} (h : Shown log q id s) (hx : s.response? = some x) :
    Verdict log id x := by
  cases h with
  | waiting => cases hx
  | answered h =>
    cases hx
    exact .answered h
  | abandoned h =>
    cases hx
    exact .lost h

theorem Shown.append {s : TicketState} (h : Shown log q id s) (more : List Sign)
    (hl : ∀ a, q.Owes a → a.id = id → r.Owes a) : Shown (log ++ more) r id s := by
  cases h with
  | waiting ha hid => exact .waiting (hl _ ha hid) hid
  | answered h => exact .answered (List.mem_append_left _ h)
  | abandoned h => exact .abandoned (List.mem_append_left _ h)

theorem Shown.decided {s : TicketState} (h : Shown log q id s) (hs : s ≠ .waiting) (more : List Sign) :
    Shown (log ++ more) r id s := by
  cases h with
  | waiting => exact absurd rfl hs
  | answered h => exact .answered (List.mem_append_left _ h)
  | abandoned h => exact .abandoned (List.mem_append_left _ h)

theorem takenIn_append : takenIn (log ++ more) = takenIn log ++ takenIn more := List.filterMap_append

theorem mem_takenIn : id ∈ takenIn log ↔ ∃ x, .taken id x ∈ log := by
  simp only [takenIn, List.mem_filterMap]
  constructor
  · rintro ⟨s, hs, h⟩
    cases s <;> simp_all
    exact ⟨_, hs⟩
  · rintro ⟨x, h⟩
    exact ⟨_, h, rfl⟩

theorem Told.ne_of_shown {s : TicketState} {i : Nat} (h : Told log q) (hs : Shown log q i s)
    (hid : id ∈ q.drawn ∨ q.nextId ≤ id) : i ≠ id := by
  have hst := h.story_fresh hid
  rintro rfl
  cases hs with
  | waiting ha hi => exact h.ne_of_fresh (h.mem_live ha.live) hid hi
  | answered hm =>
    have : Sign.answered i _ ∈ story i log := mem_story.mpr ⟨hm, rfl⟩
    simp [hst] at this
  | abandoned hm =>
    have : Sign.lost i _ ∈ story i log := mem_story.mpr ⟨hm, rfl⟩
    simp [hst] at this

namespace Ticketed

theorem new (limits : Config.Queue) : Ticketed [] (Queue.new limits) := by
  constructor <;> simp [Queue.new, takenIn]

/-- Where no ticket changes, and no job is done with, all tickets tell what they told. -/
theorem of_tickets (h : Ticketed log q) (hk : r.tickets = q.tickets) (hl : ∀ a, q.Owes a → r.Owes a)
    (hm : ∀ s ∈ more, (∀ a, s ≠ .admitted a) ∧ ∀ id x, s ≠ .taken id x) : Ticketed (log ++ more) r where
  nodup := hk ▸ h.nodup
  shown k hkq := (h.shown k (hk ▸ hkq)).append more fun a ha _ => hl a ha
  taken id x hx := by
    obtain hx | hx := List.mem_append.mp hx
    · obtain ⟨hn, hv⟩ := h.taken id x hx
      exact ⟨hk ▸ hn, hv.append more⟩
    · exact absurd rfl ((hm _ hx).2 id x)
  once := by
    have ht : takenIn more = [] := by
      rw [List.eq_nil_iff_forall_not_mem]
      intro id hid
      obtain ⟨x, hx⟩ := mem_takenIn.mp hid
      exact (hm _ hx).2 id x rfl
    rw [takenIn_append, ht, List.append_nil]
    exact h.once
  kept a ha := by
    obtain ha | ha := List.mem_append.mp ha
    · rw [hk, takenIn_append, List.mem_append, List.mem_append]
      exact (h.kept a ha).imp_right fun h => h.imp .inl .inl
    · exact absurd rfl ((hm _ ha).1 a)

theorem enter (h : Ticketed log q) (ht : Told log q) (hid : id ∈ q.drawn) (job : Job) :
    Ticketed (log ++ [.admitted ⟨id, job⟩]) (q.enter id job) := by
  have hids : (q.enter id job).tickets.map Ticket.id = q.tickets.map Ticket.id ++ [id] := by
    simp [Queue.enter]
  have howes : ∀ a, q.Owes a → (q.enter id job).Owes a := fun a ha => ha.imp_left (List.mem_append_left _)
  have hself : (q.enter id job).Owes ⟨id, job⟩ := .inl (List.mem_append_right _ (List.mem_singleton_self _))
  have hfresh : ∀ k ∈ q.tickets, k.id ≠ id := fun k hk => ht.ne_of_shown (h.shown k hk) (.inl hid)
  constructor
  case nodup =>
    rw [hids, List.nodup_append]
    refine ⟨h.nodup, List.pairwise_singleton _ _, fun i hi j hj => ?_⟩
    obtain ⟨k, hk, rfl⟩ := List.mem_map.mp hi
    cases List.mem_singleton.mp hj
    exact hfresh k hk
  case shown =>
    intro k hk
    obtain hk | hk := List.mem_append.mp hk
    · exact (h.shown k hk).append _ fun a ha _ => howes a ha
    · cases List.mem_singleton.mp hk
      exact .waiting hself rfl
  case taken =>
    intro i x hx
    obtain hx | hx := List.mem_append.mp hx
    · obtain ⟨hn, hv⟩ := h.taken i x hx
      have hi : i ≠ id := by
        cases hv with
        | answered hm => exact ht.ne_of_shown (.answered hm) (.inl hid)
        | lost hm => exact ht.ne_of_shown (.abandoned hm) (.inl hid)
      exact ⟨by simp [hids, hn, hi], hv.append _⟩
    · simp at hx
  case once =>
    rw [takenIn_append]
    exact (List.append_nil (takenIn log)).symm ▸ h.once
  case kept =>
    intro a ha
    rw [hids]
    obtain ha | ha := List.mem_append.mp ha
    · rw [takenIn_append, List.mem_append, List.mem_append, List.mem_append]
      exact (h.kept a ha).imp .inl fun h => h.imp .inl .inl
    · cases List.mem_singleton.mp ha
      exact .inl (by simp)

theorem map_id_resolve (id : Nat) (s : TicketState) (q : Queue) :
    (q.resolve id s).tickets.map Ticket.id = q.tickets.map Ticket.id := by
  simp only [resolve, List.map_map]
  apply List.map_congr_left
  intro k _
  by_cases hk : k.id = id ∧ k.state = .waiting <;> simp [hk]

theorem resolve {s : TicketState} (h : Ticketed log q) (hk : r.tickets = (q.resolve id s).tickets)
    (hl : ∀ a, q.Owes a → a.id ≠ id → r.Owes a) (hs : Shown (log ++ more) r id s)
    (hm : ∀ x ∈ more, (∀ a, x ≠ .admitted a) ∧ ∀ i y, x ≠ .taken i y) : Ticketed (log ++ more) r := by
  have hids : r.tickets.map Ticket.id = q.tickets.map Ticket.id := hk ▸ map_id_resolve id s q
  have hstay : Ticketed (log ++ more) { q with tickets := q.tickets } := h.of_tickets rfl (fun _ ha => ha) hm
  constructor
  case nodup => exact hids ▸ h.nodup
  case shown =>
    intro k hkr
    rw [hk] at hkr
    obtain ⟨j, hj, rfl⟩ := List.mem_map.mp hkr
    by_cases hji : j.id = id ∧ j.state = .waiting
    · rw [if_pos hji, hji.1]
      exact hs
    · rw [if_neg hji]
      by_cases hst : j.state = .waiting
      · exact (h.shown j hj).append more fun a ha hid => hl a ha fun he => hji ⟨hid.symm.trans he, hst⟩
      · exact (h.shown j hj).decided hst more
  case taken => exact fun i x hx => hids ▸ hstay.taken i x hx
  case once => exact hstay.once
  case kept => exact fun a ha => hids ▸ hstay.kept a ha

theorem map_id_dropTicket (id : Nat) (q : Queue) :
    (q.dropTicket id).tickets.map Ticket.id = (q.tickets.map Ticket.id).filter (· ≠ id) := by
  simp only [dropTicket, List.filter_map]
  rfl

theorem giveUp (h : Ticketed log q) (ha : ∀ a, .admitted a ∉ more)
    (hv : ∀ i x, .taken i x ∈ more → i = id ∧ Verdict log id x) (ho : (takenIn (log ++ more)).Nodup)
    (hg : .dropped id ∈ more ∨ id ∈ takenIn more) : Ticketed (log ++ more) (q.dropTicket id) := by
  have hids := map_id_dropTicket id q
  constructor
  case nodup =>
    rw [hids]
    exact h.nodup.filter _
  case shown =>
    intro k hk
    exact (h.shown k (List.mem_filter.mp hk).1).append more fun a ha _ => ha
  case taken =>
    intro i x hx
    obtain hx | hx := List.mem_append.mp hx
    · obtain ⟨hn, hv⟩ := h.taken i x hx
      exact ⟨by simp [hids, hn], hv.append more⟩
    · obtain ⟨rfl, hv⟩ := hv i x hx
      exact ⟨by simp [hids], hv.append more⟩
  case once => exact ho
  case kept =>
    intro a hm
    rw [hids, takenIn_append, List.mem_append, List.mem_append]
    obtain hm | hm := List.mem_append.mp hm
    · by_cases hid : a.id = id
      · rw [hid]
        exact .inr (hg.imp .inr .inr)
      · refine (h.kept a hm).imp (fun hk => List.mem_filter.mpr ⟨hk, by simpa using hid⟩) fun h => h.imp .inl .inl
    · exact absurd hm (ha a)

theorem take {x : Http.Response} (h : Ticketed log q) (hx : (q.ticket? id).bind TicketState.response? = some x) :
    Ticketed (log ++ [.taken id x]) (q.dropTicket id) := by
  obtain ⟨s, hs, hx⟩ := Option.bind_eq_some_iff.mp hx
  obtain ⟨k, hk, rfl⟩ := Option.map_eq_some_iff.mp hs
  have hm : k ∈ q.tickets := List.mem_of_find?_eq_some hk
  have hid : k.id = id := by simpa using List.find?_some hk
  have hv : Verdict log id x := hid ▸ (h.shown k hm).verdict hx
  have hn : id ∉ takenIn log := by
    intro hid'
    obtain ⟨y, hy⟩ := mem_takenIn.mp hid'
    exact (h.taken id y hy).1 (hid ▸ List.mem_map_of_mem hm)
  apply h.giveUp
  · simp
  · intro i y hy
    cases List.mem_singleton.mp hy
    exact ⟨rfl, hv⟩
  · rw [takenIn_append, List.nodup_append]
    refine ⟨h.once, List.pairwise_singleton _ _, fun i hi j hj => ?_⟩
    cases List.mem_singleton.mp hj
    exact fun he => hn (he ▸ hi)
  · exact .inr (List.mem_singleton_self id)

end Ticketed

theorem Move.ticketed (h : Move q more r) (ht : Told log q) (hk : Ticketed log q) : Ticketed (log ++ more) r := by
  cases h with
  | unseen | noRuntime | draw | refuse | countRefusal => exact hk.of_tickets rfl (fun _ ha => ha) (by simp)
  | enter hid => exact hk.enter ht hid _
  | grant launcher hp => exact hk.of_tickets rfl (fun _ ha => ha.grant hp launcher) (by simp)
  | spawn | start | finish | countEnd | free =>
    exact hk.of_tickets rfl (fun _ ha => ha.setStage fun _ => rfl) (by simp)
  | countFailure =>
    rw [countFailure_eq]
    exact hk.of_tickets rfl (fun _ ha => ha.setStage fun _ => rfl) (by simp)
  | @reply t o hm hs =>
    have hs : Shown (log ++ [.answered t.id o.answer]) (q.reply t.id o) t.id (.answered o.answer) :=
      .answered (by simp)
    exact hk.resolve rfl (fun _ ha hid => ha.removeTask hid) hs (by simp)
  | @abandon t how s hm hl =>
    have hlost : Sign.lost t.id how ∈ log ++ [.lost t.id how] := by simp
    exact hk.resolve rfl (fun _ ha hid => ha.setStage fun he => absurd he hid) (.abandoned hlost) (by simp)
  | @depart t hm hl =>
    refine hk.of_tickets rfl (fun a ha => ?_) (by simp)
    refine ha.removeTask fun hid => ?_
    obtain hp | ⟨u, hu, rfl, hs⟩ := ha
    · exact ht.distinct.pending_ne hm hp hid
    · have hut : q.task? u.id = some u := ht.distinct.task?_eq_some hu
      rw [show u.id = t.id from hid, ht.distinct.task?_eq_some hm] at hut
      cases hut
      exact absurd (hs.symm.trans hl) Bool.false_ne_true
  | dropTicket id =>
    apply hk.giveUp
    · simp
    · simp
    · rw [takenIn_append]
      exact (List.append_nil (takenIn log)).symm ▸ hk.once
    · exact .inl (List.mem_singleton_self _)
  | take hx => exact hk.take hx

theorem Moves.ticketed (h : Moves q more r) (ht : Told log q) (hk : Ticketed log q) : Ticketed (log ++ more) r := by
  induction h with
  | refl =>
    rw [List.append_nil]
    exact hk
  | move hm m ih =>
    rw [← List.append_assoc]
    exact m.ticketed (hm.told ht) ih

theorem mem_verdictsIn : id ∈ verdictsIn log ↔ (∃ x, .answered id x ∈ log) ∨ ∃ how, .lost id how ∈ log := by
  simp only [verdictsIn, List.mem_filterMap]
  constructor
  · rintro ⟨s, hs, h⟩
    cases s <;> simp_all [verdict?]
    · exact .inl ⟨_, hs⟩
    · exact .inr ⟨_, hs⟩
  · rintro (⟨x, h⟩ | ⟨how, h⟩)
    · exact ⟨_, h, rfl⟩
    · exact ⟨_, h, rfl⟩

theorem Ticketed.poll (h : Ticketed log q) {k : Ticket} (hk : k ∈ q.tickets) :
    (q.poll k.id).1 = k.state.response? := by
  have hf : q.ticket? k.id = some k.state := by
    rw [ticket?, find?_of_nodup h.nodup hk]
    rfl
  simp only [Queue.poll, hf, Option.bind_some]
  cases k.state.response? <;> rfl

theorem Stage.lost_mem_told (s : Stage) (a : Admitted) :
    (∃ how, .lost a.id how ∈ s.told a) ↔ s.isLeaving = true := by
  cases s with
  | discarded called => cases called <;> simp [told, isLeaving]
  | _ => simp [told, isLeaving]

theorem Told.owes_iff (h : Told log q) (ha : .admitted a ∈ log) : q.Owes a ↔ a.id ∉ verdictsIn log := by
  have hverdicts : a.id ∈ verdictsIn log ↔
      (∃ x, .answered a.id x ∈ story a.id log) ∨ ∃ how, .lost a.id how ∈ story a.id log := by
    simp [mem_verdictsIn, mem_story, Sign.subject?]
  rw [hverdicts]
  constructor
  · rintro (hp | ⟨t, ht, rfl, hl⟩)
    · simp [h.story_pending hp]
    · rw [h.story_task ht, Stage.lost_mem_told, hl]
      simp [Stage.answered_notMem_told]
  · intro hv
    obtain ⟨hp, -⟩ | ⟨t, ht, rfl, hs⟩ | ho := h.cases ha
    · exact .inl hp
    · rw [hs, Stage.lost_mem_told, not_or, Bool.not_eq_true] at hv
      exact .inr ⟨t, ht, rfl, hv.2⟩
    · refine absurd ?_ hv
      generalize story a.id log = told at ho
      cases ho with
      | answered o => exact .inl ⟨o.answer, by simp⟩
      | lost s hl =>
        obtain ⟨how, hm⟩ := (s.lost_mem_told a).mpr hl
        exact .inr ⟨how, List.mem_append_left _ hm⟩

theorem Ticketed.unresolved (h : Ticketed log q) (ht : Told log q) {k : Ticket} (hk : k ∈ q.tickets) :
    (q.poll k.id).1 = none ↔ ∃ a, q.Owes a ∧ a.id = k.id := by
  rw [h.poll hk]
  have hs := h.shown k hk
  constructor
  · intro hn
    generalize k.state = s at hs hn
    cases hs with
    | waiting ha hid => exact ⟨_, ha, hid⟩
    | answered => cases hn
    | abandoned => cases hn
  · rintro ⟨a, ha, hid⟩
    have hv : k.id ∉ verdictsIn log := hid ▸ (ht.owes_iff (ht.mem_live ha.live)).mp ha
    generalize k.state = s at hs
    cases hs with
    | waiting => rfl
    | answered hm => exact absurd (mem_verdictsIn.mpr (.inl ⟨_, hm⟩)) hv
    | abandoned hm => exact absurd (mem_verdictsIn.mpr (.inr ⟨_, hm⟩)) hv

end Turnstile.Queue
