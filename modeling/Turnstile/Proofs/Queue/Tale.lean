import Turnstile.Proofs.Queue.Story

namespace Turnstile.Queue

variable {q r : Queue} {t : Task} {log more : List Sign} {id : Nat} {a : Admitted}

/-- Nothing is seen of a number but that it was refused, unless a job was admitted under it. -/
def Known (log : List Sign) : Prop :=
  ∀ s ∈ log, ∀ id, s.subject? = some id →
    (∃ pending limit, s = .refused id pending limit) ∨ ∃ a, .admitted a ∈ log ∧ a.id = id

theorem Known.nil : Known [] := List.forall_mem_nil _

theorem Known.append (hk : Known log) (hm : ∀ s ∈ more, ∀ id, s.subject? = some id →
    (∃ pending limit, s = .refused id pending limit) ∨ ∃ a, .admitted a ∈ log ++ more ∧ a.id = id) :
    Known (log ++ more) := by
  intro s hs id hid
  obtain hs | hs := List.mem_append.mp hs
  · refine (hk s hs id hid).imp_right ?_
    rintro ⟨a, ha, rfl⟩
    exact ⟨a, List.mem_append_left _ ha, rfl⟩
  · exact hm s hs id hid

theorem Known.of_task (hk : Known log) (ht : Told log q) (hq : t ∈ q.tasks)
    (hm : ∀ s ∈ more, s.subject? = some t.id) : Known (log ++ more) := by
  apply hk.append
  intro s hs id hid
  cases (hm s hs).symm.trans hid
  exact .inr ⟨t.admitted, List.mem_append_left _ (ht.mem_live (mem_live_of_task hq)), rfl⟩

theorem Move.known (h : Move q more r) (ht : Told log q) (hk : Known log) : Known (log ++ more) := by
  cases h with
  | unseen | draw | countRefusal | grant | spawn | countEnd | countFailure =>
    rw [List.append_nil]
    exact hk
  | noRuntime | take | dropTicket => exact hk.append (by simp [Sign.subject?])
  | @enter id job =>
    apply hk.append
    intro s hs i hi
    cases List.mem_singleton.mp hs
    cases hi
    exact .inr ⟨_, List.mem_append_right _ hs, rfl⟩
  | refuse =>
    apply hk.append
    intro s hs i hi
    cases List.mem_singleton.mp hs
    cases hi
    exact .inl ⟨_, _, rfl⟩
  | start hq => exact hk.of_task ht hq (by simp [Sign.subject?, Task.id])
  | finish o hq => exact hk.of_task ht hq (by simp [Sign.subject?])
  | free hq => exact hk.of_task ht hq (by simp [Sign.subject?])
  | reply hq => exact hk.of_task ht hq (by simp [Sign.subject?])
  | abandon hq => exact hk.of_task ht hq (by simp [Sign.subject?])
  | depart hq => exact hk.of_task ht hq (by simp [Sign.subject?])

theorem Moves.known (h : Moves q more r) (ht : Told log q) (hk : Known log) : Known (log ++ more) := by
  induction h with
  | refl =>
    rw [List.append_nil]
    exact hk
  | move hm m ih =>
    rw [← List.append_assoc]
    exact m.known (hm.told ht) ih

theorem story_cons (id : Nat) (s : Sign) (log : List Sign) :
    story id (s :: log) = if s.subject? = some id then s :: story id log else story id log := by
  simp only [story, List.filter_cons, decide_eq_true_iff]

theorem count_filterMap_le {f : Sign → Option Nat} (hf : ∀ s i, f s = some i → s.subject? = some i) (id : Nat)
    (log : List Sign) : (log.filterMap f).count id ≤ ((story id log).filterMap f).length := by
  induction log with
  | nil => exact Nat.zero_le _
  | cons s log ih =>
    rw [story_cons]
    cases hs : f s with
    | none =>
      rw [List.filterMap_cons_none hs]
      split
      · rwa [List.filterMap_cons_none hs]
      · exact ih
    | some i =>
      rw [List.filterMap_cons_some hs, hf s i hs, List.count_cons]
      by_cases hi : i = id
      · subst hi
        simp only [if_true, List.filterMap_cons_some hs, List.length_cons, beq_self_eq_true]
        omega
      · have hne : ¬(some i = some id) := fun he => hi (Option.some.inj he)
        simp only [hne, hi, if_false, beq_iff_eq]
        exact ih

/-- The stories of admitted jobs. -/
inductive Tale (a : Admitted) : List Sign → Prop where
  | going (s : Stage) : Tale a (s.told a)
  | closed {told : List Sign} : Over a told → Tale a told

theorem Told.tale (h : Told log q) (ha : .admitted a ∈ log) : Tale a (story a.id log) := by
  obtain ⟨-, he⟩ | ⟨t, -, -, he⟩ | ho := h.cases ha
  · rw [he]
    exact .going .spawned
  · rw [he]
    exact .going t.stage
  · exact .closed ho

theorem Told.tale_of_mem {s : Sign} (h : Told log q) (hk : Known log) (hs : s ∈ log) (hid : s.subject? = some id)
    (hr : ∀ pending limit, s ≠ .refused id pending limit) :
    ∃ a, .admitted a ∈ log ∧ a.id = id ∧ s ∈ story a.id log ∧ Tale a (story a.id log) := by
  obtain ⟨pending, limit, he⟩ | ⟨a, ha, rfl⟩ := hk s hs id hid
  · exact absurd he (hr pending limit)
  · exact ⟨a, ha, rfl, mem_story.mpr ⟨hs, hid⟩, h.tale ha⟩

theorem Told.nodup_filterMap {f : Sign → Option Nat} (h : Told log q) (hk : Known log)
    (hf : ∀ s i, f s = some i → s.subject? = some i) (hr : ∀ i pending limit, f (.refused i pending limit) = none)
    (ho : ∀ a told, Tale a told → (told.filterMap f).length ≤ 1) : (log.filterMap f).Nodup := by
  rw [List.nodup_iff_count]
  intro id
  by_cases hid : id ∈ log.filterMap f
  · obtain ⟨s, hm, hfs⟩ := List.mem_filterMap.mp hid
    have hne : ∀ pending limit, s ≠ .refused id pending limit := by
      rintro pending limit rfl
      rw [hr] at hfs
      cases hfs
    obtain ⟨a, -, rfl, -, ht⟩ := h.tale_of_mem hk hm (hf s id hfs) hne
    exact Nat.le_trans (count_filterMap_le hf a.id log) (ho a _ ht)
  · rw [List.count_eq_zero_of_not_mem hid]
    exact Nat.zero_le _

namespace Tale

variable {told : List Sign}

/-- Every tale goes one of two ways, and may skip or still lack a part of it. -/
theorem sublist (h : Tale a told) :
    (∃ o : Outcome, told.Sublist ((Stage.released o).told a ++ [.answered a.id o.answer])) ∨
      ∃ how, told.Sublist [.admitted a, .called a, .lost a.id how, .freed a.id] := by
  cases h with
  | going s =>
    cases s with
    | claimed | spawned | calling => exact .inl ⟨.panic, List.IsPrefix.sublist ⟨_, rfl⟩⟩
    | ended o | counted o | recorded o | released o => exact .inl ⟨o, List.IsPrefix.sublist ⟨_, rfl⟩⟩
    | discarded called =>
      cases called with
      | false => exact .inr ⟨.discarded, .cons_cons _ (.cons _ (List.IsPrefix.sublist ⟨_, rfl⟩))⟩
      | true => exact .inr ⟨.discarded, List.IsPrefix.sublist ⟨_, rfl⟩⟩
    | crashed => exact .inr ⟨.crashed, List.IsPrefix.sublist ⟨_, rfl⟩⟩
  | closed h =>
    cases h with
    | answered o => exact .inl ⟨o, List.Sublist.refl _⟩
    | lost s hl =>
      cases s with
      | discarded called =>
        cases called with
        | false => exact .inr ⟨.discarded, .cons_cons _ (.cons _ (List.Sublist.refl _))⟩
        | true => exact .inr ⟨.discarded, List.Sublist.refl _⟩
      | crashed => exact .inr ⟨.crashed, List.Sublist.refl _⟩
      | claimed | spawned | calling | ended | counted | recorded | released => cases hl

theorem called_eq {b : Admitted} (h : Tale a told) (hb : .called b ∈ told) : b = a := by
  obtain ⟨o, hs⟩ | ⟨how, hs⟩ := h.sublist <;> simpa [Stage.told] using hs.subset hb

theorem refused_notMem {i pending limit : Nat} (h : Tale a told) : .refused i pending limit ∉ told := by
  intro hr
  obtain ⟨o, hs⟩ | ⟨how, hs⟩ := h.sublist <;> simpa [Stage.told] using hs.subset hr

theorem answered_eq {i : Nat} {x : Http.Response} (h : Tale a told) (hx : .answered i x ∈ told) :
    ∃ o, .ended a.id o ∈ told ∧ x = o.answer := by
  cases h with
  | going s => exact absurd hx (s.answered_notMem_told a i x)
  | closed h =>
    cases h with
    | answered o => exact ⟨o, by simp [Stage.told], by simp_all [Stage.told]⟩
    | lost s hl => simp [s.answered_notMem_told a i x] at hx

/-- A job whose call has ended is never lost, and is answered by the end of its call or not yet. -/
theorem of_ended {o : Outcome} (h : Tale a told) (ho : .ended a.id o ∈ told) :
    (∀ i how, .lost i how ∉ told) ∧ ∀ i x, .answered i x ∈ told → x = o.answer := by
  obtain ⟨u, hs⟩ | ⟨how, hs⟩ := h.sublist
  · have hu : o = u := by simpa [Stage.told] using hs.subset ho
    subst hu
    refine ⟨fun i how hl => ?_, fun i x hx => ?_⟩
    · simpa [Stage.told] using hs.subset hl
    · have hx : i = a.id ∧ x = o.answer := by simpa [Stage.told] using hs.subset hx
      exact hx.2
  · simpa using hs.subset ho

theorem ended_eq {o o' : Outcome} (h : Tale a told) (ho : .ended a.id o ∈ told) (ho' : .ended a.id o' ∈ told) :
    o = o' := by
  obtain ⟨u, hs⟩ | ⟨how, hs⟩ := h.sublist
  · have hu : o = u := by simpa [Stage.told] using hs.subset ho
    have hu' : o' = u := by simpa [Stage.told] using hs.subset ho'
    exact hu.trans hu'.symm
  · simpa using hs.subset ho

theorem lost_eq {i j : Nat} {how how' : Loss} (h : Tale a told) (hl : .lost i how ∈ told) (hl' : .lost j how' ∈ told) :
    how = how' := by
  obtain ⟨o, hs⟩ | ⟨u, hs⟩ := h.sublist
  · simpa [Stage.told] using hs.subset hl
  · have hu : i = a.id ∧ how = u := by simpa using hs.subset hl
    have hu' : j = a.id ∧ how' = u := by simpa using hs.subset hl'
    exact hu.2.trans hu'.2.symm

theorem length_filterMap_le {f : Sign → Option Nat} (h : Tale a told)
    (ha : ∀ o, (((Stage.released o).told a ++ [Sign.answered a.id o.answer]).filterMap f).length ≤ 1)
    (hl : ∀ how, ([Sign.admitted a, .called a, .lost a.id how, .freed a.id].filterMap f).length ≤ 1) :
    (told.filterMap f).length ≤ 1 := by
  obtain ⟨o, hs⟩ | ⟨how, hs⟩ := h.sublist
  · exact Nat.le_trans (hs.filterMap f).length_le (ha o)
  · exact Nat.le_trans (hs.filterMap f).length_le (hl how)

end Tale

namespace Told

variable (h : Told log q) (hk : Known log)
include h hk

theorem ended_inj {o o' : Outcome} (ho : .ended id o ∈ log) (ho' : .ended id o' ∈ log) : o = o' := by
  obtain ⟨a, -, rfl, hs, ht⟩ := h.tale_of_mem hk ho rfl nofun
  exact ht.ended_eq hs (mem_story.mpr ⟨ho', rfl⟩)

theorem lost_inj {how how' : Loss} (hl : .lost id how ∈ log) (hl' : .lost id how' ∈ log) : how = how' := by
  obtain ⟨a, -, rfl, hs, ht⟩ := h.tale_of_mem hk hl rfl nofun
  exact ht.lost_eq hs (mem_story.mpr ⟨hl', rfl⟩)

theorem lost_notMem_of_ended {o : Outcome} (ho : .ended id o ∈ log) (how : Loss) : .lost id how ∉ log := by
  intro hl
  obtain ⟨a, -, rfl, hs, ht⟩ := h.tale_of_mem hk ho rfl nofun
  exact (ht.of_ended hs).1 a.id how (mem_story.mpr ⟨hl, rfl⟩)

theorem answer_eq_of_ended {o : Outcome} {x : Http.Response} (ho : .ended id o ∈ log) (hx : .answered id x ∈ log) :
    x = o.answer := by
  obtain ⟨a, -, rfl, hs, ht⟩ := h.tale_of_mem hk ho rfl nofun
  exact (ht.of_ended hs).2 a.id x (mem_story.mpr ⟨hx, rfl⟩)

theorem exists_ended_of_answered {x : Http.Response} (hx : .answered id x ∈ log) :
    ∃ o, .ended id o ∈ log ∧ x = o.answer := by
  obtain ⟨a, -, rfl, hs, ht⟩ := h.tale_of_mem hk hx rfl nofun
  obtain ⟨o, ho, he⟩ := ht.answered_eq hs
  exact ⟨o, (mem_story.mp ho).1, he⟩

end Told

end Turnstile.Queue
