import Turnstile.Admin
import Turnstile.Proofs.Queue.Interchange

namespace Turnstile

def Admin.inspects (a : Admin) (m : Http.Method) (path : Bytes) (headers : Http.Headers) : Bool :=
  a.authorizes headers && Page.ofPath? path = some .queue && isReading m

namespace Queue

variable {q r p : Queue} {cut : Bool} {f g : Queue → Queue} {log more : List Sign} {id : Nat} {limits : Config.Queue}

/-- A queue with tickets that another one no longer has, and without the snapshot that is being taken of the other one,
if that is cut out. -/
inductive Overlooked (cut : Bool) (q : Queue) : Queue → Prop where
  | intro {tickets : List Ticket} {reading : Reading} : q.tickets.Sublist tickets →
      reading = (if cut then .none else q.reading) → Overlooked cut q { q with tickets, reading }

def Blind (f : Queue → Queue) : Prop :=
  ∀ (q : Queue) (tickets : List Ticket) (reading : Reading),
    f { q with tickets, reading } = { f q with tickets, reading }

theorem blind_countFailure (id : Nat) (o : Outcome) : Blind (countFailure id o) := by
  intro q tickets reading
  rw [countFailure_eq, countFailure_eq]
  rfl

theorem blind_claim (launcher : Launcher) : Blind (claim launcher) := by
  intro q tickets reading
  have hr : isRunning { q with tickets, reading } = q.isRunning := rfl
  simp only [claim, hr]
  split <;> rfl

theorem blind_start (id : Nat) : Blind (start id) := by
  intro q tickets reading
  have ht : task? { q with tickets, reading } id = q.task? id := rfl
  simp only [start, ht]
  cases q.task? id <;> rfl

namespace Overlooked

theorem isRunning (h : Overlooked cut q p) : p.isRunning = q.isRunning := by
  cases h
  rfl

theorem task? (h : Overlooked cut q p) (id : Nat) : p.task? id = q.task? id := by
  cases h
  rfl

theorem stage? (h : Overlooked cut q p) (id : Nat) : p.stage? id = q.stage? id :=
  congrArg (Option.map Task.stage) (h.task? id)

theorem isLeaving (h : Overlooked cut q p) (id : Nat) : p.isLeaving id = q.isLeaving id :=
  congrArg (Option.any Stage.isLeaving) (h.stage? id)

theorem claimedBy (h : Overlooked cut q p) (launcher : Launcher) : p.claimedBy launcher = q.claimedBy launcher := by
  cases h
  rfl

theorem isFree (h : Overlooked cut q p) (hq : q.isFree = true) : p.isFree = true := by
  obtain ⟨-, hr⟩ := h
  have hn : q.reading = .none := of_decide_eq_true hq
  refine decide_eq_true (hr.trans ?_)
  cases cut <;> simp [hn]

theorem snapshot (h : Overlooked cut q p) : p.snapshot = q.snapshot := by
  cases h
  rfl

theorem blind (hf : Blind f) (h : Overlooked cut q p) : Overlooked cut (f q) (f p) := by
  -- What is left alone, is left alone in a queue with its own tickets and its own snapshot as well.
  have hq : f q = { f q with tickets := q.tickets, reading := q.reading } := hf q q.tickets q.reading
  have ht := congrArg Queue.tickets hq
  have hr := congrArg Queue.reading hq
  obtain @⟨tickets, reading, hs, hp⟩ := h
  rw [hf q tickets reading]
  exact ⟨ht ▸ hs, hr ▸ hp⟩

theorem resolve (h : Overlooked cut q p) (id : Nat) (s : TicketState) :
    Overlooked cut (q.resolve id s) (p.resolve id s) := by
  obtain ⟨ht, hr⟩ := h
  exact ⟨ht.map _, hr⟩

theorem dropTicket (h : Overlooked cut q p) (id : Nat) : Overlooked cut (q.dropTicket id) (p.dropTicket id) := by
  obtain ⟨ht, hr⟩ := h
  exact ⟨ht.filter _, hr⟩

theorem enter (h : Overlooked cut q p) (id : Nat) (job : Job) :
    Overlooked cut (q.enter id job) (p.enter id job) := by
  obtain ⟨ht, hr⟩ := h
  exact ⟨ht.append (List.Sublist.refl _), hr⟩

theorem claim (h : Overlooked cut q p) (launcher : Launcher) : Overlooked cut (q.claim launcher) (p.claim launcher) :=
  h.blind (blind_claim launcher)

theorem reply (h : Overlooked cut q p) (id : Nat) (o : Outcome) : Overlooked cut (q.reply id o) (p.reply id o) :=
  (h.blind (f := removeTask id) fun _ _ _ => rfl).resolve id _

theorem abandon (h : Overlooked cut q p) (id : Nat) (s : Stage) : Overlooked cut (q.abandon id s) (p.abandon id s) :=
  (h.blind (f := fun q => (q.setStage id s).dequeue id) fun _ _ _ => rfl).resolve id _

theorem discard (h : Overlooked cut q p) (id : Nat) : Overlooked cut (q.discard id) (p.discard id) := by
  have hs := h.stage? id
  unfold Queue.discard
  rw [hs]
  split
  · exact h.abandon _ _
  · exact h.abandon _ _
  · exact h

theorem vacate (h : Overlooked cut q p) (id : Nat) : Overlooked cut (q.vacate id) (p.vacate id) :=
  (h.blind (f := depart id) fun _ _ _ => rfl).claim _

theorem start (h : Overlooked cut q p) (id : Nat) :
    Overlooked cut ((q.dequeue id).start id) ((p.dequeue id).start id) :=
  (h.blind (f := Queue.dequeue id) fun _ _ _ => rfl).blind (blind_start id)

theorem submitSection (h : Overlooked cut q p) (id : Nat) (job : Job) :
    (p.submitSection id job).1 = (q.submitSection id job).1 ∧
      Overlooked cut (q.submitSection id job).2 (p.submitSection id job).2 := by
  have hp : p.pending = q.pending ∧ p.room = q.room := by
    cases h
    exact ⟨rfl, rfl⟩
  unfold Queue.submitSection
  rw [hp.1, hp.2]
  split
  · exact ⟨rfl, h.blind (f := Queue.refuse id) fun _ _ _ => rfl⟩
  · exact ⟨rfl, (h.enter id job).claim _⟩

theorem outside (hf : ∀ q p, Overlooked cut q p → Overlooked cut (f q) (f p)) (h : Overlooked cut q p) :
    Overlooked cut (q.outside f) (p.outside f) := by
  have hrt : p.runtime = q.runtime := by
    cases h
    rfl
  have hrun := hf _ _ (h.blind (f := fun q => { q with runtime := none }) fun _ _ _ => rfl)
  have hback := hrun.blind (f := fun r => { r with runtime := q.runtime }) fun _ _ _ => rfl
  rw [Queue.outside, Queue.outside, hrt]
  exact hback

theorem act? {a : Action} {x : Option Snapshot} (h : Overlooked cut q p)
    (ha : a ≠ .lock ∧ a ≠ .loadAdmitted ∧ a ≠ .loadRejected ∧ a ≠ .loadCompleted ∧ a ≠ .loadFailed)
    (hq : q.act? a = some (r, x)) : ∃ s, p.act? a = some (s, x) ∧ Overlooked cut r s := by
  have hrun := h.isRunning
  have hfree := h.isFree
  have hst := h.stage?
  have hcl := h.claimedBy
  have hdrawn : p.drawn = q.drawn := by cases h; rfl
  have hrefusing : p.refusing = q.refusing := by cases h; rfl
  cases a with
  | draw =>
    simp only [Queue.act?, Option.ite_none_right_eq_some, Option.some.injEq, Prod.mk.injEq] at hq
    obtain ⟨hr, rfl, rfl⟩ := hq
    exact ⟨p.draw, by simp [Queue.act?, hrun, hr], h.blind fun _ _ _ => rfl⟩
  | submit id job =>
    simp only [Queue.act?, Option.ite_none_right_eq_some, Option.some.injEq, Prod.mk.injEq, Bool.and_eq_true] at hq
    obtain ⟨⟨⟨hr, hd⟩, hf⟩, rfl, rfl⟩ := hq
    exact ⟨(p.submitSection id job).2, by simp [Queue.act?, hrun, hr, hdrawn, List.contains_iff_mem.mp hd, hfree hf],
      (h.submitSection id job).2⟩
  | countRefusal =>
    simp only [Queue.act?, Option.ite_none_right_eq_some, Option.some.injEq, Prod.mk.injEq] at hq
    obtain ⟨hr, rfl, rfl⟩ := hq
    exact ⟨p.countRefusal, by simp [Queue.act?, hrefusing, hr], h.blind fun _ _ _ => rfl⟩
  | spawn launcher =>
    simp only [Queue.act?] at hq
    split at hq
    · next id ids hc =>
      simp only [Option.ite_none_right_eq_some, Option.some.injEq, Prod.mk.injEq] at hq
      obtain ⟨hr, rfl, rfl⟩ := hq
      exact ⟨p.spawn launcher id, by simp [Queue.act?, hcl, hc, hrun, hr], h.blind fun _ _ _ => rfl⟩
    · cases hq
  | start id =>
    simp only [Queue.act?, Option.ite_none_right_eq_some, Option.some.injEq, Prod.mk.injEq, Bool.and_eq_true] at hq
    obtain ⟨⟨hr, hs⟩, rfl, rfl⟩ := hq
    exact ⟨(p.dequeue id).start id, by simp [Queue.act?, hrun, hr, hst, of_decide_eq_true hs], h.start id⟩
  | crash id =>
    simp only [Queue.act?, Option.ite_none_right_eq_some, Option.some.injEq, Prod.mk.injEq, Bool.and_eq_true] at hq
    obtain ⟨⟨hr, hs⟩, rfl, rfl⟩ := hq
    exact ⟨(p.dequeue id).crash id, by simp [Queue.act?, hrun, hr, hst, of_decide_eq_true hs],
      (h.start id).abandon id _⟩
  | vacate id =>
    simp only [Queue.act?, Option.ite_none_right_eq_some, Option.some.injEq, Prod.mk.injEq, Bool.and_eq_true] at hq
    obtain ⟨⟨⟨hr, hl⟩, hf⟩, rfl, rfl⟩ := hq
    exact ⟨p.vacate id, by simp [Queue.act?, hrun, hr, h.isLeaving, hl, hfree hf], h.vacate id⟩
  | finish id o =>
    simp only [Queue.act?, Option.ite_none_right_eq_some, Option.some.injEq, Prod.mk.injEq] at hq
    obtain ⟨hs, rfl, rfl⟩ := hq
    exact ⟨p.finish id o, by simp [Queue.act?, hst, hs], h.blind fun _ _ _ => rfl⟩
  | countEnd id =>
    simp only [Queue.act?] at hq
    split at hq
    · next o hs =>
      cases hq
      exact ⟨p.countEnd id o, by simp [Queue.act?, hst, hs], h.blind fun _ _ _ => rfl⟩
    · cases hq
  | countFailure id =>
    simp only [Queue.act?] at hq
    split at hq
    · next o hs =>
      cases hq
      exact ⟨p.countFailure id o, by simp [Queue.act?, hst, hs], h.blind (blind_countFailure id o)⟩
    · cases hq
  | release id =>
    simp only [Queue.act?] at hq
    split at hq
    · next o hs =>
      simp only [Option.ite_none_right_eq_some, Option.some.injEq, Prod.mk.injEq, Bool.and_eq_true] at hq
      obtain ⟨⟨hr, hf⟩, rfl, rfl⟩ := hq
      have hfreed : Overlooked cut (q.free id o) (p.free id o) := h.blind fun _ _ _ => rfl
      exact ⟨p.release id o, by simp [Queue.act?, hst, hs, hrun, hr, hfree hf], hfreed.claim _⟩
    · cases hq
  | reply id =>
    simp only [Queue.act?] at hq
    split at hq
    · next o hs =>
      simp only [Option.ite_none_right_eq_some, Option.some.injEq, Prod.mk.injEq] at hq
      obtain ⟨hc, rfl, rfl⟩ := hq
      exact ⟨p.reply id o, by simp only [Queue.act?, hst, hs, hcl, hc, if_true], h.reply id o⟩
    · cases hq
  | dropTicket id =>
    cases hq
    exact ⟨p.dropTicket id, rfl, h.dropTicket id⟩
  | lock | loadAdmitted | loadRejected | loadCompleted | loadFailed => simp at ha

theorem signs {e : Event} (h : Overlooked cut q p) (he : ∀ id, e ≠ .poll id) : p.signs e = q.signs e := by
  have hs (id : Nat) (job : Job) := (h.submitSection id job).1
  cases e with
  | poll id => exact absurd rfl (he id)
  | act a =>
    cases a with
    | submit id job => simp only [Queue.signs, hs]
    | _ =>
      cases h
      rfl
  | _ =>
    cases h
    rfl

end Overlooked

/-- One thing that happens to a queue or around it: a step, or a question that is answered at once. -/
inductive Deed where
  | event (e : Event)
  | limits
  | ask (a : Admin) (method : Http.Method) (path : Bytes) (headers : Http.Headers)
  deriving DecidableEq, Repr

/-- What comes of it for the one who did it: what can be seen of a step, with the numbers of a finished snapshot, or the
answer to the question. -/
inductive Upshot where
  | seen (signs : List Sign) (taken : Option Snapshot)
  | limits (l : Config.Queue)
  | response (r : Http.Response)
  deriving DecidableEq, Repr

def taken? (q : Queue) : Event → Option Snapshot
  | .act a => (q.act? a).bind Prod.snd
  | _ => none

def deed? (q : Queue) : Deed → Option (Upshot × Queue)
  | .event e => (q.step? e).map fun r => (.seen (q.signs e) (q.taken? e), r)
  | .limits => some (.limits q.limits, q)
  | .ask a method path headers =>
    if q.isFree || !a.inspects method path headers then
      some (.response (a.respond q.snapshot method path headers), q)
    else none

def Deed.watches : Deed → Bool
  | .event (.act (.dropTicket _)) | .event (.poll _) | .event (.submitOutside _) | .limits | .ask .. => true
  | .event _ => false

def Deed.cut? (cut kept : Bool) : Deed → Option Bool
  | .event (.act .lock) => some !kept
  | .event (.act .loadAdmitted) | .event (.act .loadRejected) | .event (.act .loadCompleted) =>
    if kept = cut then none else some cut
  | .event (.act .loadFailed) => if kept = cut then none else some false
  | d => if kept || d.watches then some cut else none

def isSparing : Bool → List (Deed × Bool) → Bool
  | _, [] => true
  | cut, (d, kept) :: rest => (d.cut? cut kept).any (isSparing · rest)

def Action.reads : Action → Bool
  | lock | loadAdmitted | loadRejected | loadCompleted | loadFailed => true
  | _ => false

theorem of_reads {a : Action} {x : Option Snapshot} (ha : a.reads = true) (h : q.act? a = some (r, x)) :
    r = { q with reading := r.reading } ∧ (a = .lock → q.isFree = true) ∧ (a = .loadFailed → r.reading = .none) := by
  cases a with
  | lock =>
    simp only [act?, Option.ite_none_right_eq_some, Option.some.injEq, Prod.mk.injEq] at h
    obtain ⟨hf, rfl, -⟩ := h
    exact ⟨rfl, fun _ => hf, by simp⟩
  | loadAdmitted | loadRejected | loadCompleted | loadFailed =>
    simp only [act?] at h
    split at h
    · cases h
      exact ⟨rfl, by simp, by simp⟩
    · cases h
  | _ => cases ha

theorem act?_of_reads {a : Action} (ha : a.reads = true) (q : Queue) (tickets : List Ticket) :
    act? { q with tickets } a = (q.act? a).map fun x => ({ x.1 with tickets }, x.2) := by
  cases a with
  | lock =>
    have hf : isFree { q with tickets } = q.isFree := rfl
    simp only [act?, hf]
    split <;> rfl
  | loadAdmitted | loadRejected | loadCompleted | loadFailed =>
    simp only [act?]
    split <;> rfl
  | _ => cases ha

theorem Overlooked.read {a : Action} {x : Option Snapshot} (h : Overlooked false q p) (ha : a.reads = true)
    (hq : q.act? a = some (r, x)) : ∃ s, p.act? a = some (s, x) ∧ Overlooked false r s := by
  obtain @⟨tickets, reading, ht, hr⟩ := h
  obtain rfl : reading = q.reading := hr
  obtain ⟨hrq, -⟩ := of_reads ha hq
  refine ⟨{ r with tickets }, ?_, ?_⟩
  · rw [act?_of_reads ha, hq]
    rfl
  · have htr : r.tickets = q.tickets := by rw [hrq]
    exact ⟨htr ▸ ht, rfl⟩

theorem Overlooked.of_free {after : Bool} (h : Overlooked cut q p) (hf : q.isFree = true) : Overlooked after q p := by
  obtain ⟨ht, hr⟩ := h
  have hn : q.reading = .none := of_decide_eq_true hf
  refine ⟨ht, hr.trans ?_⟩
  rw [hn, ite_self, ite_self]

theorem Overlooked.unread {reading : Reading} (h : Overlooked true q p) : Overlooked true { q with reading } p := by
  obtain ⟨ht, hr⟩ := h
  exact ⟨ht, hr⟩

theorem Overlooked.skip {d : Deed} {x : Upshot} {after : Bool} (h : Overlooked cut q p)
    (hk : d.cut? cut false = some after) (hd : q.deed? d = some (x, r)) : Overlooked after r p := by
  cases d with
  | limits =>
    cases hk
    cases hd
    exact h
  | ask a method path headers =>
    cases hk
    simp only [Queue.deed?, Option.ite_none_right_eq_some, Option.some.injEq, Prod.mk.injEq] at hd
    exact hd.2.2 ▸ h
  | event e =>
    obtain ⟨s, hs, heq⟩ := Option.map_eq_some_iff.mp hd
    obtain rfl : s = r := congrArg Prod.snd heq
    cases e with
    | submitOutside job =>
      cases hk
      cases hs
      exact h
    | poll id =>
      cases hk
      cases hs
      obtain ⟨ht, hr⟩ := h
      cases hx : (q.ticket? id).bind TicketState.response? with
      | none => simpa only [Queue.poll, hx] using ⟨ht, hr⟩
      | some y =>
        simp only [Queue.poll, hx]
        exact ⟨List.filter_sublist.trans ht, hr⟩
    | act a =>
      obtain ⟨⟨u, y⟩, ha, rfl⟩ := Option.map_eq_some_iff.mp hs
      cases a with
      | dropTicket id =>
        cases hk
        cases ha
        obtain ⟨ht, hr⟩ := h
        exact ⟨List.filter_sublist.trans ht, hr⟩
      | lock =>
        cases hk
        obtain ⟨hu, hf, -⟩ := of_reads rfl ha
        rw [hu]
        exact (h.of_free (hf rfl)).unread
      | loadAdmitted | loadRejected | loadCompleted =>
        obtain ⟨hu, -⟩ := of_reads rfl ha
        rw [hu]
        cases cut <;> cases hk
        exact h.unread
      | loadFailed =>
        obtain ⟨hu, -, hn⟩ := of_reads rfl ha
        cases cut <;> cases hk
        rw [hu] at hn ⊢
        exact h.unread.of_free (decide_eq_true (hn rfl))
      | _ => cases hk
    | _ => cases hk

theorem Overlooked.ticket? {s : TicketState} (h : Overlooked cut q p) (hp : (p.tickets.map Ticket.id).Nodup)
    (hs : q.ticket? id = some s) : p.ticket? id = some s := by
  obtain ⟨k, hk, rfl⟩ := Option.map_eq_some_iff.mp hs
  have hid : k.id = id := by simpa using List.find?_some hk
  obtain ⟨ht, -⟩ := h
  rw [Queue.ticket?, ← hid, find?_of_nodup hp (ht.subset (List.mem_of_find?_eq_some hk))]
  rfl

theorem Overlooked.poll (id : Nat) (h : Overlooked cut q p) (hp : (p.tickets.map Ticket.id).Nodup) :
    Overlooked cut (q.poll id).2 (p.poll id).2 ∧ ((p.poll id).1 = (q.poll id).1 ∨ q.ticket? id = none) := by
  cases hq : q.ticket? id with
  | some s =>
    have hpt := h.ticket? hp hq
    simp only [Queue.poll, hq, hpt, Option.bind_some]
    cases s.response? with
    | none => exact ⟨h, .inl rfl⟩
    | some x => exact ⟨h.dropTicket id, .inl rfl⟩
  | none =>
    refine ⟨?_, .inr rfl⟩
    have hgone : q.dropTicket id = q := by
      have hne : ∀ k ∈ q.tickets, k.id ≠ id := by simpa [Queue.ticket?] using hq
      simp only [Queue.dropTicket, List.filter_eq_self.mpr fun k hk => decide_eq_true (hne k hk)]
    have hdrop := h.dropTicket id
    rw [hgone] at hdrop
    simp only [Queue.poll, hq, Option.bind_none]
    cases (p.ticket? id).bind TicketState.response? with
    | none => exact h
    | some x => exact hdrop

theorem deed?_act (q : Queue) (a : Action) :
    q.deed? (.event (.act a)) = (q.act? a).map fun y => (.seen (q.signs (.act a)) y.2, y.1) := by
  simp only [deed?, step?, taken?]
  cases q.act? a <;> rfl

theorem Overlooked.keep_act {a : Action} {x : Upshot} {after : Bool} (h : Overlooked cut q p)
    (hk : (Deed.event (.act a)).cut? cut true = some after) (hd : q.deed? (.event (.act a)) = some (x, r)) :
    ∃ s, p.deed? (.event (.act a)) = some (x, s) ∧ Overlooked after r s := by
  rw [deed?_act] at hd ⊢
  obtain ⟨⟨s, y⟩, ha, heq⟩ := Option.map_eq_some_iff.mp hd
  obtain ⟨rfl, rfl⟩ := Prod.mk.inj heq
  have hsame : ∃ u, p.act? a = some (u, y) ∧ Overlooked after s u := by
    cases hr : a.reads with
    | true =>
      cases a with
      | lock =>
        cases hk
        exact (h.of_free ((of_reads hr ha).2.1 rfl)).read hr ha
      | loadAdmitted | loadRejected | loadCompleted | loadFailed =>
        cases cut <;> cases hk
        exact h.read hr ha
      | _ => cases hr
    | false =>
      have hafter : after = cut := by cases a <;> first | exact (Option.some.inj hk).symm | cases hr
      rw [hafter]
      exact h.act? (by refine ⟨?_, ?_, ?_, ?_, ?_⟩ <;> rintro rfl <;> cases hr) ha
  obtain ⟨u, hu, hs⟩ := hsame
  exact ⟨u, by rw [hu, h.signs (by simp)]; rfl, hs⟩

theorem Overlooked.step? {e : Event} (h : Overlooked cut q p) (ha : ∀ a, e ≠ .act a) (hn : ∀ id, e ≠ .poll id)
    (hq : q.step? e = some r) : ∃ s, p.step? e = some s ∧ Overlooked cut r s := by
  have hrun := h.isRunning
  have hfree := h.isFree
  have hidle (id : Nat) : p.isIdle id = q.isIdle id := congrArg (Option.any Stage.isIdle) (h.stage? id)
  have hgone : p.tasks = q.tasks ∧ p.drawn = q.drawn := by
    cases h
    exact ⟨rfl, rfl⟩
  cases e with
  | act a => exact absurd rfl (ha a)
  | poll id => exact absurd rfl (hn id)
  | submitOutside job =>
    cases hq
    exact ⟨p, rfl, h⟩
  | discard id =>
    simp only [Queue.step?, Option.ite_none_right_eq_some, Option.some.injEq] at hq
    obtain ⟨hi, rfl⟩ := hq
    exact ⟨p.discard id, by simp [Queue.step?, hidle, hi], h.discard id⟩
  | vacateOutside id =>
    simp only [Queue.step?, Option.ite_none_right_eq_some, Option.some.injEq, Bool.and_eq_true] at hq
    obtain ⟨⟨⟨hl, hf⟩, hc⟩, rfl⟩ := hq
    exact ⟨p.outside (Queue.vacate id), by simp [Queue.step?, h.isLeaving, hl, hfree hf, h.stage?, of_decide_eq_true hc],
      h.outside fun _ _ hqp => hqp.vacate id⟩
  | schedule x =>
    simp only [Queue.step?, Option.ite_none_right_eq_some, Option.some.injEq] at hq
    obtain ⟨hr, rfl⟩ := hq
    exact ⟨{ p with runtime := some x }, by simp [Queue.step?, hrun, hr],
      h.blind (f := fun q => { q with runtime := some x }) fun _ _ _ => rfl⟩
  | stop =>
    simp only [Queue.step?, Option.ite_none_right_eq_some, Option.some.injEq] at hq
    obtain ⟨hr, rfl⟩ := hq
    exact ⟨{ p with runtime := none }, by rw [Queue.step?, hrun, hgone.1, hgone.2, if_pos hr],
      h.blind (f := fun q => { q with runtime := none }) fun _ _ _ => rfl⟩
  | restart =>
    simp only [Queue.step?, Option.ite_none_left_eq_some, Option.some.injEq] at hq
    obtain ⟨hr, rfl⟩ := hq
    exact ⟨{ p with runtime := some {} }, by rw [Queue.step?, hrun, if_neg hr],
      h.blind (f := fun q => { q with runtime := some {} }) fun _ _ _ => rfl⟩

theorem Overlooked.keep {d : Deed} {x : Upshot} {after : Bool} (h : Overlooked cut q p)
    (hp : (p.tickets.map Ticket.id).Nodup) (hk : d.cut? cut true = some after) (hd : q.deed? d = some (x, r)) :
    ∃ y s, p.deed? d = some (y, s) ∧ Overlooked after r s ∧
      (y = x ∨ ∃ id, d = .event (.poll id) ∧ q.ticket? id = none) := by
  cases d with
  | limits =>
    cases hk
    cases hd
    have hl : p.limits = q.limits := by cases h; rfl
    exact ⟨_, p, rfl, h, .inl (congrArg Upshot.limits hl)⟩
  | ask a method path headers =>
    cases hk
    simp only [Queue.deed?, Option.ite_none_right_eq_some, Option.some.injEq, Prod.mk.injEq, Bool.or_eq_true] at hd
    obtain ⟨hf, rfl, rfl⟩ := hd
    refine ⟨_, p, if_pos ?_, h, .inl (by rw [h.snapshot])⟩
    exact Bool.or_eq_true_iff.mpr (hf.imp_left h.isFree)
  | event e =>
    by_cases ha : ∃ a, e = .act a
    · obtain ⟨a, rfl⟩ := ha
      obtain ⟨s, hs, ho⟩ := h.keep_act hk hd
      exact ⟨x, s, hs, ho, .inl rfl⟩
    · rw [not_exists] at ha
      obtain ⟨s, hs, heq⟩ := Option.map_eq_some_iff.mp hd
      obtain ⟨rfl, rfl⟩ := Prod.mk.inj heq
      have hafter : after = cut := by
        cases e with
        | act a => exact absurd rfl (ha a)
        | _ => exact (Option.some.inj hk).symm
      rw [hafter]
      by_cases hn : ∃ id, e = .poll id
      · obtain ⟨id, rfl⟩ := hn
        cases hs
        obtain ⟨ho, hx⟩ := h.poll id hp
        refine ⟨_, _, rfl, ho, hx.imp (fun hx => ?_) fun hx => ⟨id, rfl, hx⟩⟩
        simp only [Queue.signs, hx]
        rfl
      · rw [not_exists] at hn
        obtain ⟨u, hu, ho⟩ := h.step? ha hn hs
        refine ⟨_, u, by rw [Queue.deed?, hu]; rfl, ho, .inl ?_⟩
        rw [h.signs hn]
        cases e with
        | act a => exact absurd rfl (ha a)
        | _ => rfl

/-- A step of a run: the queue before it, what was done, what came of it, and the queue after it. -/
structure Entry where
  before : Queue
  deed : Deed
  upshot : Upshot
  after : Queue

def trace? (q : Queue) : List Deed → Option (List Entry)
  | [] => some []
  | d :: ds => do
    let (x, r) ← q.deed? d
    let rest ← trace? r ds
    some (⟨q, d, x, r⟩ :: rest)

def remaining {α : Type} (plan : List (Deed × Bool)) (xs : List α) : List α :=
  ((plan.zip xs).filter (·.1.2)).map Prod.snd

/-- A step comes to the same in two runs, but for tickets that one of them no longer has. -/
structure Agrees (e f : Entry) : Prop where
  deed : f.deed = e.deed
  before : ∃ cut, Overlooked cut e.before f.before
  after : ∃ cut, Overlooked cut e.after f.after
  upshot : f.upshot = e.upshot ∨ ∃ id, e.deed = .event (.poll id) ∧ e.before.ticket? id = none

theorem run_of_deed? {d : Deed} {x : Upshot} (h : q.deed? d = some (x, r)) :
    ∃ more, Run (fun _ _ => True) q more r := by
  cases d with
  | event e =>
    obtain ⟨s, hs, heq⟩ := Option.map_eq_some_iff.mp h
    obtain ⟨rfl, rfl⟩ := Prod.mk.inj heq
    exact ⟨_, .single trivial hs⟩
  | limits =>
    cases h
    exact ⟨[], .refl⟩
  | ask a method path headers =>
    simp only [deed?, Option.ite_none_right_eq_some, Option.some.injEq, Prod.mk.injEq] at h
    exact ⟨[], h.2.2 ▸ .refl⟩

theorem Overlooked.trace? {plan : List (Deed × Bool)} {es : List Entry} (h : Overlooked cut q p)
    (hp : ∃ log, Run (fun _ _ => True) (new limits) log p) (hs : isSparing cut plan = true)
    (he : q.trace? (plan.map Prod.fst) = some es) :
    ∃ fs, p.trace? (remaining plan (plan.map Prod.fst)) = some fs ∧ List.Forall₂ Agrees (remaining plan es) fs := by
  induction plan generalizing cut q p es with
  | nil => exact ⟨[], rfl, .nil⟩
  | cons x plan ih =>
    obtain ⟨d, kept⟩ := x
    obtain ⟨after, hafter, hlater⟩ : ∃ after, d.cut? cut kept = some after ∧ isSparing after plan = true := by
      cases hc : d.cut? cut kept with
      | none => simp [isSparing, hc] at hs
      | some after => exact ⟨after, rfl, by simpa [isSparing, hc] using hs⟩
    simp only [List.map_cons, Queue.trace?, Option.bind_eq_bind, Option.bind_eq_some_iff, Option.some.injEq] at he
    obtain ⟨⟨x, r⟩, hd, rest, hrest, rfl⟩ := he
    cases kept with
    | false => exact ih (h.skip hafter hd) hp hlater hrest
    | true =>
      obtain ⟨log, hrun⟩ := hp
      have hnodup := (hrun.moves.ticketed (.new limits) (.new limits)).nodup
      obtain ⟨y, s, hy, ho, hupshot⟩ := h.keep hnodup hafter hd
      obtain ⟨more, hmore⟩ := run_of_deed? hy
      obtain ⟨fs, hfs, hall⟩ := ih ho ⟨_, hrun.trans hmore⟩ hlater hrest
      refine ⟨⟨p, d, y, s⟩ :: fs, ?_, .cons ⟨rfl, ⟨_, h⟩, ⟨_, ho⟩, hupshot⟩ hall⟩
      change Queue.trace? p (d :: remaining plan (plan.map Prod.fst)) = _
      simp only [Queue.trace?, hy, hfs, Option.bind_eq_bind, Option.bind_some]

theorem drained_dropTicket (outcome : Nat → Outcome) (id : Nat) (q : Queue) :
    (q.dropTicket id).drained outcome = (q.drained outcome).dropTicket id := by
  have hk : ((fun k : Ticket => decide (k.id ≠ id)) ∘ fun k => k.awaiting (answerAmong outcome q.course k.id)) =
      fun k : Ticket => decide (k.id ≠ id) := by
    funext k
    exact congrArg (fun i => decide (i ≠ id)) (k.id_awaiting _)
  have ht : (q.tickets.map fun k => k.awaiting (answerAmong outcome q.course k.id)).filter (fun k => k.id ≠ id) =
      (q.tickets.filter fun k => k.id ≠ id).map fun k => k.awaiting (answerAmong outcome q.course k.id) := by
    rw [List.filter_map, hk]
  simp only [drained, dropTicket, ht]
  rfl

/-- Watching a queue, and walking away from it, makes no difference to it. From any run, steps of that kind can be left
out, and all others lead to the same states and come to the same; and when a ticket has been dropped, the queue still
comes to what it was bound to come to, but for the ticket. -/
theorem watching_inert (limits : Config.Queue) :
    (∀ allowed log q, Run allowed (new limits) log q → ∀ plan es, isSparing false plan = true →
      q.trace? (plan.map Prod.fst) = some es →
      ∃ fs, q.trace? (remaining plan (plan.map Prod.fst)) = some fs ∧ List.Forall₂ Agrees (remaining plan es) fs) ∧
    ∀ log q, Run attended (new limits) log q → q.isRunning = true → ∀ id outcome more r,
      Run (draining outcome) (q.dropTicket id) more r → r.live = [] →
      { r.bare with calls := [] } = { (q.drained outcome).dropTicket id with calls := [] } := by
  constructor
  · intro allowed log q h plan es hs he
    have hq : Overlooked false q q := .intro (List.Sublist.refl _) rfl
    exact hq.trace? ⟨log, h.mono fun _ _ _ => trivial⟩ hs he
  · intro log q h hr id outcome more r hd hl
    have hdrop : Run attended (new limits) (log ++ [.dropped id]) (q.dropTicket id) :=
      h.step (e := .act (.dropTicket id)) (by simp [attended]) rfl
    have hdrained := (hd.drain (hdrop.sound (.new limits)) hr).drained
    rw [hdrop.bare_of_drained hr hd hl, drained_dropTicket] at hdrained
    exact eq_apart_from_calls (q := (q.drained outcome).dropTicket id) hdrained

def forsaken : List (Deed × Bool) :=
  [(.event (.act .draw), true), (.event (.act (.submit 1 plainJob)), true), (.event (.act (.dropTicket 1)), false),
    (.event (.act .lock), false), (.event (.act (.spawn (.submission 1))), true),
    (.event (.act .loadAdmitted), false), (.limits, false), (.event (.act (.start 1)), true),
    (.event (.act .loadRejected), false), (.event (.act .loadCompleted), false), (.event (.act .loadFailed), false),
    (.ask ⟨"key", "http://up.test"⟩ .get (Bytes.ofString "/admin/queue") [], false),
    (.event (.submitOutside plainJob), false), (.event (.act (.finish 1 .panic)), true),
    (.event (.act (.countEnd 1)), true), (.event (.act (.countFailure 1)), true),
    (.event (.act (.release 1)), true), (.event (.act (.reply 1)), true), (.event (.poll 1), true)]

theorem watching_inert_forsaken :
    (∃ es fs, (new ⟨1, 1⟩).trace? (forsaken.map Prod.fst) = some es ∧
      (new ⟨1, 1⟩).trace? (remaining forsaken (forsaken.map Prod.fst)) = some fs ∧
      List.Forall₂ Agrees (remaining forsaken es) fs ∧ es.length = 19 ∧ fs.length = 10 ∧
      es.getLast?.map Entry.upshot = some (.seen [] none) ∧
      fs.getLast?.map Entry.upshot = some (.seen [.taken 1 Outcome.panic.answer] none)) ∧
    ∃ log q more r, (new ⟨1, 1⟩).play? (overtaking.take 6) = some (log, q) ∧
      (q.dropTicket 2).play? (panicking 2 [.act (.spawn (.release 2))] ++ .act (.start 1) :: panicking 1 []) =
        some (more, r) ∧
      r.totals = ⟨2, 0, 2, 2⟩ ∧
      { r.bare with calls := [] } = { (q.drained fun _ => .panic).dropTicket 2 with calls := [] } := by
  constructor
  · obtain ⟨es, he, hl, hlast⟩ : ∃ es, (new ⟨1, 1⟩).trace? (forsaken.map Prod.fst) = some es ∧ es.length = 19 ∧
        es.getLast?.map Entry.upshot = some (.seen [] none) := ⟨_, rfl, rfl, rfl⟩
    obtain ⟨fs, hf, hlf, hlastf⟩ : ∃ fs, (new ⟨1, 1⟩).trace? (remaining forsaken (forsaken.map Prod.fst)) = some fs ∧
        fs.length = 10 ∧ fs.getLast?.map Entry.upshot = some (.seen [.taken 1 Outcome.panic.answer] none) :=
      ⟨_, rfl, rfl, rfl⟩
    obtain ⟨gs, hg, hagree⟩ := (watching_inert ⟨1, 1⟩).1 attended [] _ .refl forsaken es rfl he
    obtain rfl := Option.some.inj (hf.symm.trans hg)
    exact ⟨es, fs, he, hf, hagree, hl, hlf, hlast, hlastf⟩
  · obtain ⟨log, q, h, hr, more, r, hm, hlr, ht⟩ : ∃ log q, (new ⟨1, 1⟩).play? (overtaking.take 6) = some (log, q) ∧
        q.isRunning = true ∧ ∃ more r, (q.dropTicket 2).play? (panicking 2 [.act (.spawn (.release 2))] ++
          .act (.start 1) :: panicking 1 []) = some (more, r) ∧ r.live = [] ∧ r.totals = ⟨2, 0, 2, 2⟩ :=
      ⟨_, _, rfl, rfl, _, _, rfl, rfl, rfl⟩
    have hrun : Run attended (new ⟨1, 1⟩) log q := run_of_play? (by simp [overtaking, attended]) h
    have hd : Run (draining fun _ => .panic) (q.dropTicket 2) more r :=
      run_of_play? (by simp [panicking, draining, Event.drains, Event.unwinds]) hm
    exact ⟨log, q, more, r, h, hm, ht, (watching_inert ⟨1, 1⟩).2 log q hrun hr 2 _ more r hd hlr⟩

end Queue

end Turnstile
