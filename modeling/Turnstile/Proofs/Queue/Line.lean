import Turnstile.Proofs.Queue.Slots
import Turnstile.Proofs.Queue.Story

namespace Turnstile.Queue

variable {q r : Queue} {t : Task} {log more : List Sign} {id : Nat}

structure Line where
  servers : Nat
  room : Nat
  jobs : List Admitted
  deriving DecidableEq, Repr

namespace Line

def served (l : Line) : List Admitted := l.jobs.take l.servers

def waiting (l : Line) : List Admitted := l.jobs.drop l.servers

def leave? (l : Line) (id : Nat) : Option Line :=
  if id ∈ l.served.map Admitted.id then some { l with jobs := l.jobs.filter (·.id ≠ id) } else none

/-- Jobs are turned away exactly when there is no room left, and only those that are served leave. -/
def after? (l : Line) : Sign → Option Line
  | .admitted a => if l.waiting.length < l.room then some { l with jobs := l.jobs ++ [a] } else none
  | .refused _ _ _ => if l.room ≤ l.waiting.length then some l else none
  | .freed id => l.leave? id
  | _ => some l

def follow? (l : Line) (log : List Sign) : Option Line := log.foldlM after? l

def empty (limits : Config.Queue) : Line := ⟨limits.maxConcurrency.toNat, limits.maxQueueSize.toNat, []⟩

theorem follow?_append (l : Line) (log more : List Sign) :
    l.follow? (log ++ more) = (l.follow? log).bind (·.follow? more) := List.foldlM_append

end Line

/-- The jobs whose slot was given back. -/
def departuresIn (log : List Sign) : List Nat :=
  log.filterMap fun | .freed id => some id | _ => none

/-- The jobs that were admitted and whose slot was not given back yet, in the order of their admission. -/
def unfinishedIn (log : List Sign) : List Admitted := (admissionsIn log).filter (·.id ∉ departuresIn log)

theorem mem_departuresIn : id ∈ departuresIn log ↔ .freed id ∈ log := by
  simp only [departuresIn, List.mem_filterMap]
  constructor
  · rintro ⟨s, hs, h⟩
    cases s <;> simp_all
  · exact fun h => ⟨_, h, rfl⟩

theorem mem_departuresIn_iff_story : id ∈ departuresIn log ↔ .freed id ∈ story id log := by
  simp [mem_departuresIn, mem_story, Sign.subject?]

/-- The jobs whose call has ended, or that got lost. -/
def endingsIn (log : List Sign) : List Nat :=
  log.filterMap fun | .ended id _ | .lost id _ => some id | _ => none

theorem mem_endingsIn_iff_story {id : Nat} :
    id ∈ endingsIn log ↔ (∃ o, .ended id o ∈ story id log) ∨ ∃ how, .lost id how ∈ story id log := by
  simp only [endingsIn, List.mem_filterMap, mem_story]
  constructor
  · rintro ⟨s, hs, h⟩
    cases s <;> simp_all [Sign.subject?]
    · exact .inl ⟨_, hs⟩
    · exact .inr ⟨_, hs⟩
  · rintro (⟨o, h, -⟩ | ⟨how, h, -⟩)
    · exact ⟨_, h, rfl⟩
    · exact ⟨_, h, rfl⟩

theorem departuresIn_append : departuresIn (log ++ more) = departuresIn log ++ departuresIn more :=
  List.filterMap_append

theorem eq_filter_of_sublist {α : Type} {l m : List α} {p : α → Bool} (h : l.Sublist m) (hn : m.Nodup)
    (hp : ∀ a ∈ m, a ∈ l ↔ p a = true) : l = m.filter p := by
  induction h with
  | slnil => rfl
  | @cons l m a h ih =>
    have hn := List.nodup_cons.mp hn
    have ha : ¬p a = true := fun hpa => hn.1 (h.subset ((hp a List.mem_cons_self).mpr hpa))
    rw [List.filter_cons_of_neg ha]
    exact ih hn.2 fun b hb => hp b (List.mem_cons_of_mem a hb)
  | @cons_cons l m a h ih =>
    have hn := List.nodup_cons.mp hn
    rw [List.filter_cons_of_pos ((hp a List.mem_cons_self).mp List.mem_cons_self)]
    congr 1
    apply ih hn.2
    intro b hb
    have hne : b ≠ a := fun he => hn.1 (he ▸ hb)
    simpa [hne] using hp b (List.mem_cons_of_mem a hb)

theorem Stage.freed_mem_told (s : Stage) (a : Admitted) : .freed a.id ∈ s.told a ↔ s.holdsSlot = false := by
  cases s with
  | discarded called => cases called <;> simp [told, holdsSlot]
  | _ => simp [told, holdsSlot]

namespace Told

theorem admissions_nodup (h : Told log q) : (admissionsIn log).Nodup :=
  List.Pairwise.of_map Admitted.id (fun _ _ hne he => hne (congrArg Admitted.id he)) h.nodup

theorem holding_append_pending (h : Told log q) :
    q.holding.map Task.admitted ++ q.pending = unfinishedIn log := by
  have hsub : (q.holding.map Task.admitted ++ q.pending).Sublist q.live :=
    (List.filter_sublist.map _).append (List.Sublist.refl _)
  apply eq_filter_of_sublist (hsub.trans h.order) h.admissions_nodup
  intro a ha
  rw [decide_eq_true_iff, mem_departuresIn_iff_story]
  constructor
  · intro hm
    obtain hm | hm := List.mem_append.mp hm
    · obtain ⟨t, ht, rfl⟩ := List.mem_map.mp hm
      obtain ⟨ht, hs⟩ := List.mem_filter.mp ht
      rw [h.story_task ht, Stage.freed_mem_told, hs]
      exact Bool.false_ne_true ∘ Eq.symm
    · rw [h.story_pending hm]
      simp
  · intro hd
    obtain hl | ho := h.closed a (mem_admissionsIn.mp ha)
    · obtain hl | hl := List.mem_append.mp hl
      · obtain ⟨t, ht, rfl⟩ := List.mem_map.mp hl
        refine List.mem_append_left _ (List.mem_map_of_mem (List.mem_filter.mpr ⟨ht, ?_⟩))
        rw [h.story_task ht, Stage.freed_mem_told] at hd
        simpa using hd
      · exact List.mem_append_right _ hl
    · generalize story a.id log = s at ho hd
      cases ho with
      | answered o => simp [Stage.told] at hd
      | lost s hl => simp at hd

end Told

theorem unfinishedIn_append_of_nil (ha : admissionsIn more = []) (hd : departuresIn more = []) :
    unfinishedIn (log ++ more) = unfinishedIn log := by
  rw [unfinishedIn, admissionsIn_append, departuresIn_append, ha, hd, List.append_nil, List.append_nil]
  rfl

theorem unfinishedIn_append_leave (ha : admissionsIn more = []) (hd : departuresIn more = [id]) :
    unfinishedIn (log ++ more) = (unfinishedIn log).filter (·.id ≠ id) := by
  rw [unfinishedIn, admissionsIn_append, departuresIn_append, ha, hd, List.append_nil, unfinishedIn, List.filter_filter]
  apply List.filter_congr
  intro a _
  simp [and_comm]

theorem unfinishedIn_append_admitted {a : Admitted} (ha : a.id ∉ departuresIn log) :
    unfinishedIn (log ++ [.admitted a]) = unfinishedIn log ++ [a] := by
  have hd : departuresIn (log ++ [.admitted a]) = departuresIn log := by
    rw [departuresIn_append]
    exact List.append_nil _
  rw [unfinishedIn, admissionsIn_append, hd, List.filter_append]
  simp [admissionsIn, ha, unfinishedIn]

def line (log : List Sign) (q : Queue) : Line := ⟨q.slots, q.room, unfinishedIn log⟩

theorem line_congr {log' : List Sign} (hl : r.limits = q.limits) (hu : unfinishedIn log' = unfinishedIn log) :
    line log' r = line log q := by
  simp only [line, slots, room, hl, hu]

def Tight (q : Queue) : Prop := q.pending = [] ∨ q.slots ≤ q.inFlight

theorem Balanced.length_holding_le (h : Balanced q) : (q.holding.map Task.admitted).length ≤ q.slots := by
  rw [List.length_map, length_holding, ← h.inFlight]
  exact h.slots

section

variable (ht : Told log q) (hb : Balanced q)
include ht hb

theorem mem_served (hm : t ∈ q.tasks) (hs : t.stage.holdsSlot = true) : t.admitted ∈ (line log q).served := by
  have hh : t.admitted ∈ q.holding.map Task.admitted := List.mem_map_of_mem (List.mem_filter.mpr ⟨hm, hs⟩)
  have hl := hb.length_holding_le
  simp only [Line.served, line, ← ht.holding_append_pending, List.take_append, List.take_of_length_le hl]
  exact List.mem_append_left _ hh

theorem waiting_length_le : (line log q).waiting.length ≤ q.pending.length := by
  have hl := hb.length_holding_le
  simp only [Line.waiting, line, ← ht.holding_append_pending, List.length_drop, List.length_append]
  omega

theorem line_of_tight (h : Tight q) :
    q.holding.map Task.admitted = (line log q).served ∧ q.pending = (line log q).waiting := by
  have hl := hb.length_holding_le
  simp only [Line.served, Line.waiting, line, ← ht.holding_append_pending, List.take_append, List.drop_append,
    List.take_of_length_le hl, List.drop_of_length_le hl]
  obtain hp | hs := h
  · simp [hp]
  · have hn : q.slots - (q.holding.map Task.admitted).length = 0 := by
      rw [List.length_map, length_holding, ← hb.inFlight]
      omega
    rw [hn]
    simp

theorem leave?_line (hm : t ∈ q.tasks) (hs : t.stage.holdsSlot = true) (hl : r.limits = q.limits)
    (ha : admissionsIn more = []) (hd : departuresIn more = [t.id]) :
    (line log q).leave? t.id = some (line (log ++ more) r) := by
  have hserved : t.id ∈ (line log q).served.map Admitted.id := List.mem_map_of_mem (mem_served ht hb hm hs)
  rw [Line.leave?, if_pos hserved]
  simp only [line, unfinishedIn_append_leave ha hd, slots, room, hl]

theorem Move.follows (h : Move q more r) (hr : ∀ id pending limit, .refused id pending limit ∈ more → Tight q) :
    (line log q).follow? more = some (line (log ++ more) r) := by
  have hl := h.limits
  cases h with
  | unseen | draw | countRefusal | grant | spawn | countEnd | countFailure =>
    rw [List.append_nil]
    exact congrArg some (line_congr hl rfl).symm
  | noRuntime | start | finish | reply | abandon | take | dropTicket =>
    exact congrArg some (line_congr hl (unfinishedIn_append_of_nil rfl rfl)).symm
  | @enter id job hid hp =>
    have hdep : id ∉ departuresIn log := by
      rw [mem_departuresIn_iff_story, ht.story_fresh (.inl hid)]
      simp
    have hw : (line log q).waiting.length < (line log q).room := Nat.lt_of_le_of_lt (waiting_length_le ht hb) hp
    simp only [Line.follow?, List.foldlM_cons, List.foldlM_nil, Line.after?, hw, if_true]
    simp only [line, unfinishedIn_append_admitted (a := ⟨id, job⟩) hdep, slots, room, hl]
    rfl
  | @refuse id hid hp =>
    have hw := (line_of_tight ht hb (hr _ _ _ List.mem_cons_self)).2
    have hroom : (line log q).room ≤ (line log q).waiting.length := hw ▸ hp
    simp only [Line.follow?, List.foldlM_cons, List.foldlM_nil, Line.after?, hroom, if_true]
    exact congrArg some (line_congr hl (unfinishedIn_append_of_nil rfl rfl)).symm
  | @free t o hm hs =>
    have h : (line log q).leave? t.id = some (line (log ++ [.freed t.id]) _) :=
      leave?_line ht hb hm (hs ▸ rfl) hl rfl rfl
    simp [Line.follow?, Line.after?, h]
  | @depart t hm hs =>
    have h : (line log q).leave? t.id = some (line (log ++ [.freed t.id]) _) :=
      leave?_line ht hb hm (holdsSlot_of_isLeaving hs) hl rfl rfl
    simp [Line.follow?, Line.after?, h]

theorem Moves.follows (h : Moves q more r) (hr : ∀ id pending limit, .refused id pending limit ∉ more) :
    (line log q).follow? more = some (line (log ++ more) r) := by
  induction h with
  | refl =>
    rw [List.append_nil]
    rfl
  | @move more next p r hm m ih =>
    have hr₁ : ∀ id pending limit, .refused id pending limit ∉ more := fun id p l hs =>
      hr id p l (List.mem_append_left _ hs)
    have hr₂ : ∀ id pending limit, .refused id pending limit ∈ next → Tight p := fun id p l hs =>
      absurd (List.mem_append_right _ hs) (hr id p l)
    have hk := m.follows (hm.told ht) (hm.balanced ht.distinct hb) hr₂
    rw [Line.follow?_append, ih hr₁, ← List.append_assoc]
    exact hk

end

end Turnstile.Queue
