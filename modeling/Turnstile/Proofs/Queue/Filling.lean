import Turnstile.Proofs.Queue.Admission
import Turnstile.Proofs.Queue.Conservation
import Turnstile.Proofs.Queue.Emptying

namespace Turnstile.Queue

variable {q r : Queue} {t : Task} {before after : List Task} {log more : List Sign} {e : Event} {limits : Config.Queue}

namespace Line

variable {l k : Line}

def places (l : Line) : Nat := l.servers + l.room - l.jobs.length

theorem filled (h : l.follow? log = some k) (hd : departuresIn log = []) (hr : 0 < l.room) :
    k.jobs = l.jobs ++ admissionsIn log ∧
      numbersIn log = (admissionsIn log).map Admitted.id ++ refusalsIn log ∧
      (admissionsIn log).length = min (numbersIn log).length l.places := by
  have hwaiting (l : Line) : l.waiting.length = l.jobs.length - l.servers := by simp [waiting]
  induction log generalizing l with
  | nil =>
    cases h
    simp [admissionsIn, numbersIn, refusalsIn]
  | cons sign log ih =>
    obtain ⟨m, hm, h⟩ := Option.bind_eq_some_iff.mp h
    cases sign with
    | admitted a =>
      simp only [after?, Option.ite_none_right_eq_some, Option.some.injEq] at hm
      obtain ⟨hw, rfl⟩ := hm
      obtain ⟨hjobs, horder, hcount⟩ := ih h hd hr
      rw [hwaiting] at hw
      refine ⟨?_, congrArg (a.id :: ·) horder, ?_⟩
      · rw [hjobs, List.append_assoc]
        rfl
      · change (admissionsIn log).length + 1 = min ((numbersIn log).length + 1) l.places
        simp only [places, List.length_append, List.length_singleton] at hcount ⊢
        omega
    | refused id pending limit =>
      simp only [after?, Option.ite_none_right_eq_some, Option.some.injEq] at hm
      obtain ⟨hw, rfl⟩ := hm
      obtain ⟨hjobs, horder, hcount⟩ := ih h hd hr
      rw [hwaiting] at hw
      have hfull : l.places = 0 := by
        rw [places]
        omega
      rw [hfull, Nat.min_zero] at hcount
      have hnone : admissionsIn log = [] := List.eq_nil_of_length_eq_zero hcount
      rw [hnone] at horder hjobs
      refine ⟨hnone ▸ hjobs, ?_, ?_⟩
      · change id :: numbersIn log = (admissionsIn log).map Admitted.id ++ id :: refusalsIn log
        rw [hnone, horder]
        rfl
      · rw [hfull, Nat.min_zero]
        exact hcount
    | freed => cases hd
    | noRuntime | called | ended | answered | lost | taken | dropped =>
      cases hm
      exact ih h hd hr

end Line

/-- A slot is given back, or a task goes away with its own. -/
def Event.vacates : Event → Bool
  | .act (.crash _) | .discard _ => true
  | e => e.givesBack

def filling (_ : Queue) (e : Event) : Prop := e.vacates = false

/-- One executor goes on, and no slot is given back. -/
def bursting (q : Queue) (e : Event) : Prop := filling q e ∧ serial q e

theorem attended_of_filling (h : filling q e) : attended q e := by
  rintro id rfl
  cases h

theorem departuresIn_signs (he : e.vacates = false) : departuresIn (q.signs e) = [] := by
  unfold signs
  split
  case h_2 id job =>
    cases hs : (q.submitSection id job).1 with
    | ok => rfl
    | error x => cases x <;> rfl
  case h_3 | h_13 => simp [departuresIn, callSigns]
  case h_4 | h_6 | h_7 | h_8 => cases he
  case h_9 => split <;> rfl
  all_goals rfl

theorem lost_notMem_signs (he : e.vacates = false) (id : Nat) (how : Loss) : .lost id how ∉ q.signs e := by
  unfold signs
  split
  case h_2 i job =>
    cases hs : (q.submitSection i job).1 with
    | ok => simp [Sign.ofSubmission]
    | error x => cases x <;> simp [Sign.ofSubmission]
  case h_3 => simp [callSigns]
  case h_4 | h_12 => cases he
  case h_9 => split <;> simp
  case h_11 => simp [submit, isRunning, Sign.ofSubmission]
  all_goals simp

theorem Run.departuresIn_eq_nil (h : Run filling q more r) : departuresIn more = [] := by
  induction h with
  | refl => rfl
  | step _ ha _ ih => rw [departuresIn_append, ih, departuresIn_signs ha, List.append_nil]

theorem unstarted_removeTask_of_started (h : Stands q t before after) (ht : t.stage.isUnstarted = false) :
    (q.removeTask t.id).unstarted = q.unstarted := by
  simp only [unstarted, h.removeTask, h.tasks, unstartedAmong_append, unstartedAmong_cons, ht]
  rfl

theorem Move.lineup (h : Move q more r) (hd : Distinct q) (hc : ∀ a, .called a ∉ more)
    (hl : ∀ id how, .lost id how ∉ more) : r.lineup = q.lineup ++ admissionsIn more := by
  have hset {u : Stage} {t : Task} (ht : t ∈ q.tasks) (hu : t.stage.isUnstarted = u.isUnstarted) :
      q.calls ++ (q.setStage t.id u).unstarted ++ q.pending = q.lineup ++ [] := by
    obtain ⟨before, after, hst⟩ := hd.stands ht
    rw [unstarted_setStage hst hu, List.append_nil]
    rfl
  have hremove {t : Task} (ht : t ∈ q.tasks) (hu : t.stage.isUnstarted = false) :
      q.calls ++ (q.removeTask t.id).unstarted ++ q.pending = q.lineup ++ [] := by
    obtain ⟨before, after, hst⟩ := hd.stands ht
    rw [unstarted_removeTask_of_started hst hu, List.append_nil]
    rfl
  cases h with
  | unseen | noRuntime | draw | refuse | countRefusal | dropTicket | take => exact (List.append_nil _).symm
  | enter => exact (List.append_assoc _ _ _).symm
  | grant launcher hp =>
    simp [Queue.lineup, Queue.grant, unstarted, unstartedAmong, hp, Stage.isUnstarted, admissionsIn]
  | spawn ht hs => exact hset ht (by rw [hs]; rfl)
  | start => exact absurd List.mem_cons_self (hc _)
  | finish o ht hs => exact hset ht (by rw [hs]; rfl)
  | @countEnd t o ht hs => exact hset (u := .counted o) ht (by rw [hs]; rfl)
  | @countFailure t o ht hs =>
    rw [countFailure_eq]
    exact hset (u := .recorded o) ht (by rw [hs]; rfl)
  | @free t o ht hs => exact hset (u := .released o) ht (by rw [hs]; rfl)
  | reply ht hs => exact hremove ht (by rw [hs]; rfl)
  | abandon => exact absurd List.mem_cons_self (hl _ _)
  | depart ht hs => exact hremove ht (isUnstarted_of_isLeaving hs)

theorem Moves.lineup (h : Moves q more r) (hd : Distinct q) (hc : ∀ a, .called a ∉ more)
    (hl : ∀ id how, .lost id how ∉ more) : r.lineup = q.lineup ++ admissionsIn more := by
  induction h with
  | refl => exact (List.append_nil _).symm
  | move hm m ih =>
    have hlast := m.lineup (hm.distinct hd) (fun a ha => hc a (List.mem_append_right _ ha))
      fun id how ha => hl id how (List.mem_append_right _ ha)
    have hfirst :=
      ih (fun a ha => hc a (List.mem_append_left _ ha)) fun id how ha => hl id how (List.mem_append_left _ ha)
    rw [hlast, hfirst, admissionsIn_append, List.append_assoc]

theorem lineup_of_step (he : filling q e) (hd : Distinct q) (h : q.step? e = some r) :
    r.lineup.Perm (q.lineup ++ admissionsIn (q.signs e)) ∧
      (serial q e → r.lineup = q.lineup ++ admissionsIn (q.signs e)) := by
  by_cases hs : ∀ id, e ≠ .act (.start id)
  · have hcrash : ∀ id, e ≠ .act (.crash id) := by
      rintro id rfl
      cases he
    have heq := (moves_of_step h).lineup hd (fun a => called_notMem_signs fun id => ⟨hcrash id, hs id⟩)
      (lost_notMem_signs he)
    exact ⟨.of_eq heq, fun _ => heq⟩
  · obtain ⟨id, rfl⟩ : ∃ id, e = .act (.start id) := by simpa using hs
    have hnone : admissionsIn (q.signs (.act (.start id))) = [] := admissionsIn_signs (by simp)
    rw [hnone, List.append_nil]
    obtain ⟨⟨s, x⟩, hact, rfl⟩ := Option.map_eq_some_iff.mp h
    cases acts_of_act? hact with
    | observe => exact ⟨.refl _, fun _ => rfl⟩
    | @start t ht hst =>
      obtain ⟨before, after, hstands⟩ := hd.stands (task?_eq_some ht).1
      have hu : t.stage.isUnstarted = true := by rw [hst]; rfl
      exact ⟨lineup_startTask_perm (q := q) hstands hu, lineup_startTask (q := q) hstands hd hu⟩

theorem Run.lineup (h : Run filling q more r) (hd : Distinct q) : r.lineup.Perm (q.lineup ++ admissionsIn more) := by
  induction h with
  | refl => exact .of_eq (List.append_nil _).symm
  | step h ha hs ih =>
    have hstep := (lineup_of_step ha (h.moves.distinct hd) hs).1
    rw [admissionsIn_append, ← List.append_assoc]
    exact hstep.trans (ih.append_right _)

theorem Run.lineup_of_serial (h : Run bursting q more r) (hd : Distinct q) :
    r.lineup = q.lineup ++ admissionsIn more := by
  induction h with
  | refl => exact (List.append_nil _).symm
  | step h ha hs ih =>
    have hstep := (lineup_of_step ha.1 (h.moves.distinct hd) hs).2 ha.2
    rw [hstep, ih, admissionsIn_append, List.append_assoc]

def admissible (q : Queue) (submissions : Nat) : Nat := min submissions (q.slots + q.room - q.backlog)

def startable (q : Queue) (submissions : Nat) : Nat :=
  min q.slots (q.backlog + submissions) - min q.slots q.backlog

/-- What a row of submissions comes to, whatever else goes on, as long as no slot is given back. Submissions that have
been refused are counted a moment later. -/
structure Filled (q : Queue) (log : List Sign) (r : Queue) : Prop where
  order : numbersIn log = (admissionsIn log).map Admitted.id ++ refusalsIn log
  admitted : (admissionsIn log).length = q.admissible (numbersIn log).length
  inFlight : r.inFlight = min q.slots (q.backlog + (numbersIn log).length)
  pending : r.pending.length = min q.room (q.backlog + (numbersIn log).length - q.slots)
  admittedTotal : r.totals.admitted = q.totals.admitted + q.admissible (numbersIn log).length
  rejectedTotal : r.totals.rejected + r.refusing =
    q.totals.rejected + q.refusing + ((numbersIn log).length - q.admissible (numbersIn log).length)
  holding : r.holding.map Task.admitted =
    q.holding.map Task.admitted ++ (admissionsIn log).take (q.startable (numbersIn log).length)
  calls : r.calls = q.calls ++ callsIn log
  called : (callsIn log ++ r.unstarted).Perm
    (q.unstarted ++ (admissionsIn log).take (q.startable (numbersIn log).length))
  inTurn : Run bursting q log r → callsIn log ++ r.unstarted =
    q.unstarted ++ (admissionsIn log).take (q.startable (numbersIn log).length)

theorem length_refusalsIn (log : List Sign) : (refusalsIn log).length = log.countP Sign.isRefusal := by
  induction log with
  | nil => rfl
  | cons sign log ih =>
    cases sign with
    | refused id pending limit =>
      rw [List.countP_cons_of_pos rfl, ← ih]
      rfl
    | _ => exact ih

theorem Told.length_unfinishedIn (h : Told log q) (hb : Balanced q) : (unfinishedIn log).length = q.backlog := by
  rw [← h.holding_append_pending, List.length_append, List.length_map, length_holding, ← hb.inFlight, Nat.add_comm]
  rfl

theorem Run.line_follows (h : Run attended (new limits) log q) (k : Run attended q more r) :
    (line log q).follow? more = some (line (log ++ more) r) := by
  have hall := (h.trans k).follows
  rwa [Line.follow?_append, h.follows, Option.bind_some] at hall

theorem drop_append_eq {α : Type} (l k : List α) (n : Nat) :
    l.drop n ++ k = k.take (n - l.length) ++ (l ++ k).drop n := by
  rw [List.drop_append]
  obtain hn | hn := Nat.le_total l.length n
  · rw [List.drop_of_length_le hn, List.nil_append, List.nil_append, List.take_append_drop]
  · rw [Nat.sub_eq_zero_of_le hn]
    rfl

theorem Sound.standing_in_line (h : Sound q) (ht : Told log q) :
    q.holding.map Task.admitted = (unfinishedIn log).take q.slots ∧ q.pending = (unfinishedIn log).drop q.slots :=
  line_of_tight ht h.balanced h.tight

/-- The line when no slot has been given back for a while: those who were there, and those who have joined. -/
structure Joined (q : Queue) (log : List Sign) (r : Queue) : Prop where
  order : numbersIn log = (admissionsIn log).map Admitted.id ++ refusalsIn log
  admitted : (admissionsIn log).length = q.admissible (numbersIn log).length
  holding : r.holding.map Task.admitted =
    q.holding.map Task.admitted ++ (admissionsIn log).take (q.startable (numbersIn log).length)
  pending : q.pending ++ admissionsIn log = (admissionsIn log).take (q.startable (numbersIn log).length) ++ r.pending
  inFlight : r.inFlight = min q.slots (q.backlog + (admissionsIn log).length)
  waiting : r.pending.length = q.backlog + (admissionsIn log).length - q.slots

theorem Run.joined (h : Run attended (new limits) log q) (hr : 0 < q.room) (k : Run filling q more r) :
    Joined q more r := by
  have hattended : Run attended q more r := k.mono fun _ _ => attended_of_filling
  have hs := h.sound (.new limits)
  have hs' := hattended.sound hs
  have ht : Told log q := h.moves.told (.new limits)
  have ht' : Told (log ++ more) r := (h.trans hattended).moves.told (.new limits)
  have hslots : r.slots = q.slots := by rw [slots, slots, hattended.moves.limits]
  obtain ⟨hjobs, horder, hcount⟩ := Line.filled (h.line_follows hattended) k.departuresIn_eq_nil hr
  have hjobs : unfinishedIn (log ++ more) = unfinishedIn log ++ admissionsIn more := hjobs
  have hlen := ht.length_unfinishedIn hs.balanced
  have hcount : (admissionsIn more).length = q.admissible (numbersIn more).length := by
    rw [hcount, admissible, ← hlen]
    rfl
  obtain ⟨hholding, hpending⟩ := hs.standing_in_line ht
  obtain ⟨hholding', hpending'⟩ := hs'.standing_in_line ht'
  rw [hslots, hjobs] at hholding' hpending'
  -- the free slots are as many as the startable submissions, or there are more of them than jobs that join
  have htake : (admissionsIn more).take (q.slots - q.backlog) =
      (admissionsIn more).take (q.startable (numbersIn more).length) := by
    rw [List.take_eq_take_iff, hcount, startable, admissible]
    omega
  constructor
  case order => exact horder
  case admitted => exact hcount
  case holding => rw [hholding', hholding, List.take_append, hlen, htake]
  case pending => rw [hpending, drop_append_eq, hlen, htake, ← hpending']
  case inFlight =>
    have hi := congrArg List.length hholding'
    rw [List.length_map, length_holding, ← hs'.balanced.inFlight, List.length_take, List.length_append, hlen] at hi
    exact hi
  case waiting =>
    have hp := congrArg List.length hpending'
    rwa [List.length_drop, List.length_append, hlen] at hp

theorem Run.filled (h : Run attended (new limits) log q) (hr : 0 < q.room) (k : Run filling q more r) :
    Filled q more r := by
  have hattended : Run attended q more r := k.mono fun _ _ => attended_of_filling
  have hs := h.sound (.new limits)
  have hd := hs.distinct
  have hj := h.joined hr k
  have htallied : Tallied log q := h.moves.tallied (distinct_new limits) (.new limits) (.new limits)
  have htallied' : Tallied (log ++ more) r :=
    (h.trans hattended).moves.tallied (distinct_new limits) (.new limits) (.new limits)
  have hcalls : r.calls = q.calls ++ callsIn more := hattended.moves.calls
  have hlineup : q.lineup ++ admissionsIn more =
      q.calls ++ (q.unstarted ++ (admissionsIn more).take (q.startable (numbersIn more).length)) ++ r.pending := by
    rw [Queue.lineup, List.append_assoc, hj.pending]
    simp
  have hrest : r.lineup = q.calls ++ (callsIn more ++ r.unstarted) ++ r.pending := by
    rw [Queue.lineup, hcalls, List.append_assoc q.calls]
  have hadmitted := hj.admitted
  constructor
  case order => exact hj.order
  case admitted => exact hj.admitted
  case inFlight =>
    rw [hj.inFlight, hadmitted, admissible]
    omega
  case pending =>
    have hle : q.backlog ≤ q.slots + q.room := by
      rw [Nat.add_comm]
      exact Nat.add_le_add hs.balanced.room hs.balanced.slots
    rw [hj.waiting, hadmitted, admissible]
    omega
  case admittedTotal =>
    rw [htallied'.admitted, htallied.admitted, admissionsIn_append, List.length_append, hadmitted]
  case rejectedTotal =>
    have horder := congrArg List.length hj.order
    rw [List.length_append, List.length_map, hadmitted, length_refusalsIn] at horder
    rw [htallied'.rejected, htallied.rejected, List.countP_append]
    omega
  case holding => exact hj.holding
  case calls => exact hcalls
  case called =>
    have hperm := k.lineup hd
    rw [hrest, hlineup] at hperm
    exact (List.perm_append_left_iff _).mp ((List.perm_append_right_iff _).mp hperm)
  case inTurn =>
    intro hserial
    have heq := hserial.lineup_of_serial hd
    rw [hrest, hlineup] at heq
    exact List.append_cancel_left (List.append_cancel_right heq)

end Turnstile.Queue
