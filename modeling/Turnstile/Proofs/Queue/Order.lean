import Turnstile.Proofs.Queue.Dispatch

namespace Turnstile.Queue

variable {q r : Queue} {t : Task} {before after : List Task} {log more : List Sign}

/-- The call of the task is still to come. -/
def Stage.isUnstarted : Stage → Bool
  | claimed _ | spawned => true
  | _ => false

def unstartedAmong (tasks : List Task) : List Admitted := (tasks.filter (·.stage.isUnstarted)).map Task.admitted

def unstarted (q : Queue) : List Admitted := unstartedAmong q.tasks

theorem unstartedAmong_append (ts us : List Task) :
    unstartedAmong (ts ++ us) = unstartedAmong ts ++ unstartedAmong us := by
  simp only [unstartedAmong, List.filter_append, List.map_append]

theorem unstartedAmong_cons (t : Task) (ts : List Task) :
    unstartedAmong (t :: ts) = (if t.stage.isUnstarted then [t.admitted] else []) ++ unstartedAmong ts := by
  cases h : t.stage.isUnstarted <;> simp [unstartedAmong, h]

theorem unstarted_setStage (h : Stands q t before after) {s : Stage} (hs : t.stage.isUnstarted = s.isUnstarted) :
    (q.setStage t.id s).unstarted = q.unstarted := by
  simp only [unstarted, h.setStage, h.tasks, unstartedAmong_append, unstartedAmong_cons, hs]

theorem unstarted_removeTask (h : Stands q t before after) : (q.removeTask t.id).unstarted.Sublist q.unstarted := by
  simp only [unstarted, h.removeTask, h.tasks, unstartedAmong_append, unstartedAmong_cons]
  exact (List.Sublist.refl _).append (List.sublist_append_right _ _)

theorem isUnstarted_of_isLeaving {s : Stage} (h : s.isLeaving = true) : s.isUnstarted = false := by
  cases s with
  | discarded | crashed => rfl
  | _ => cases h

theorem unstarted_abandon {how : Loss} {s : Stage} (h : Stands q t before after) (hl : Leaves t.stage how s) :
    (q.abandon t.id s).unstarted.Sublist q.unstarted := by
  change (q.setStage t.id s).unstarted.Sublist q.unstarted
  simp only [unstarted, h.setStage, h.tasks, unstartedAmong_append, unstartedAmong_cons,
    isUnstarted_of_isLeaving hl.isLeaving]
  exact (List.Sublist.refl _).append (List.sublist_append_right _ _)

theorem unstarted_start (h : Stands q t before after) (ht : t.stage.isUnstarted = true)
    (hf : q.unstarted.head? = some t.admitted) {s : Stage} (hs : s.isUnstarted = false) :
    q.unstarted = t.admitted :: (q.setStage t.id s).unstarted := by
  have hb : unstartedAmong before = [] := by
    simp only [unstarted, h.tasks, unstartedAmong_append] at hf
    cases hl : unstartedAmong before with
    | nil => rfl
    | cons a rest =>
      simp only [hl, List.cons_append, List.head?_cons, Option.some.injEq] at hf
      obtain ⟨u, hu, ha⟩ := List.mem_map.mp (show a ∈ unstartedAmong before by simp [hl])
      have hne := h.ne u (List.mem_append_left _ (List.mem_filter.mp hu).1)
      exact absurd (congrArg Admitted.id (ha.trans hf)) hne
  simp only [unstarted, h.setStage, h.tasks, unstartedAmong_append, unstartedAmong_cons, hb, ht, hs]
  simp

/-- Calls that have started, jobs that hold a slot for theirs, and waiting jobs are in the order of their admission. -/
def InOrder (log : List Sign) (q : Queue) : Prop :=
  (q.calls ++ q.unstarted ++ q.pending).Sublist (admissionsIn log)

namespace InOrder

theorem of_sublist (h : InOrder log q) (ha : admissionsIn more = []) (hc : r.calls = q.calls)
    (hu : r.unstarted.Sublist q.unstarted) (hp : r.pending = q.pending) : InOrder (log ++ more) r := by
  rw [InOrder, admissionsIn_append, ha, List.append_nil, hc, hp]
  exact (((List.Sublist.refl _).append hu).append (List.Sublist.refl _)).trans h

theorem of_eq (h : InOrder log q) (ha : admissionsIn more = []) (hc : r.calls = q.calls)
    (hu : r.unstarted = q.unstarted) (hp : r.pending = q.pending) : InOrder (log ++ more) r :=
  h.of_sublist ha hc (hu ▸ List.Sublist.refl _) hp

end InOrder

theorem Move.inOrder (h : Move q more r) (hd : Distinct q)
    (hf : ∀ a, .called a ∈ more → q.unstarted.head? = some a) (ho : InOrder log q) : InOrder (log ++ more) r := by
  cases h with
  | unseen | noRuntime | draw | refuse | countRefusal | dropTicket | take => exact ho.of_eq rfl rfl rfl rfl
  | @enter id job hid hp =>
    rw [InOrder, admissionsIn_append]
    have hr : (q.enter id job).calls ++ (q.enter id job).unstarted ++ (q.enter id job).pending =
        q.calls ++ q.unstarted ++ q.pending ++ [⟨id, job⟩] := (List.append_assoc _ _ _).symm
    rw [hr]
    exact ho.append (List.Sublist.refl _)
  | @grant a rest launcher hp hs =>
    have hr : (q.grant launcher a rest).calls ++ (q.grant launcher a rest).unstarted ++
        (q.grant launcher a rest).pending = q.calls ++ q.unstarted ++ q.pending := by
      simp [Queue.grant, unstarted, unstartedAmong, hp, Stage.isUnstarted]
    rw [List.append_nil, InOrder, hr]
    exact ho
  | spawn ht hs =>
    obtain ⟨before, after, h⟩ := hd.stands ht
    exact ho.of_eq rfl rfl (unstarted_setStage h (by rw [hs]; rfl)) rfl
  | @start t ht hs =>
    obtain ⟨before, after, h⟩ := hd.stands ht
    have hu := unstarted_start h (hs ▸ rfl) (hf _ List.mem_cons_self) (s := .calling) rfl
    have hr : (q.startTask t).calls ++ (q.startTask t).unstarted ++ (q.startTask t).pending =
        q.calls ++ q.unstarted ++ q.pending := by
      rw [hu]
      change (q.calls ++ [t.admitted]) ++ (q.setStage t.id .calling).unstarted ++ q.pending = _
      simp
    rw [InOrder, admissionsIn_append, hr]
    exact ho.trans (List.sublist_append_left _ _)
  | finish o ht hs =>
    obtain ⟨before, after, h⟩ := hd.stands ht
    exact ho.of_eq rfl rfl (unstarted_setStage h (by rw [hs]; rfl)) rfl
  | @countEnd t o ht hs =>
    obtain ⟨before, after, h⟩ := hd.stands ht
    exact ho.of_eq rfl rfl (unstarted_setStage h (s := .counted o) (by rw [hs]; rfl)) rfl
  | @countFailure t o ht hs =>
    obtain ⟨before, after, h⟩ := hd.stands ht
    rw [countFailure_eq]
    exact ho.of_eq rfl rfl (unstarted_setStage h (s := .recorded o) (by rw [hs]; rfl)) rfl
  | @free t o ht hs =>
    obtain ⟨before, after, h⟩ := hd.stands ht
    exact ho.of_eq rfl rfl (unstarted_setStage h (s := .released o) (by rw [hs]; rfl)) rfl
  | reply ht hs =>
    obtain ⟨before, after, h⟩ := hd.stands ht
    exact ho.of_sublist rfl rfl (unstarted_removeTask h) rfl
  | depart ht hl =>
    obtain ⟨before, after, h⟩ := hd.stands ht
    exact ho.of_sublist rfl rfl (unstarted_removeTask h) rfl
  | @abandon t how s ht hl =>
    obtain ⟨before, after, h⟩ := hd.stands ht
    exact ho.of_sublist rfl rfl (unstarted_abandon h hl) rfl

theorem Moves.inOrder (h : Moves q more r) (hd : Distinct q) (hf : ∀ a, .called a ∉ more) (ho : InOrder log q) :
    InOrder (log ++ more) r := by
  induction h with
  | refl =>
    rw [List.append_nil]
    exact ho
  | move hm m ih =>
    rw [← List.append_assoc]
    exact m.inOrder (hm.distinct hd) (fun a ha => absurd (List.mem_append_right _ ha) (hf a))
      (ih fun a ha => hf a (List.mem_append_left _ ha))

/-- Tasks are started in the order in which they got their slots, and every call is there before it panics. -/
def serial (q : Queue) (e : Event) : Prop :=
  attended q e ∧ ∀ id, e ≠ .act (.crash id) ∧ (e = .act (.start id) → q.unstarted.head?.map Admitted.id = some id)

theorem called_notMem_signs {e : Event} {a : Admitted}
    (he : ∀ id, e ≠ .act (.crash id) ∧ e ≠ .act (.start id)) : .called a ∉ q.signs e := by
  unfold signs
  split
  case h_2 id job =>
    cases hs : (q.submitSection id job).1 with
    | ok => simp [Sign.ofSubmission]
    | error x => cases x <;> simp [Sign.ofSubmission]
  case h_3 => exact absurd rfl (he _).2
  case h_4 => exact absurd rfl (he _).1
  case h_9 => split <;> simp
  case h_11 => simp [submit, isRunning, Sign.ofSubmission]
  all_goals simp

theorem inOrder_of_step {e : Event} (ha : serial q e) (hd : Distinct q) (ho : InOrder log q) (h : q.step? e = some r) :
    InOrder (log ++ q.signs e) r := by
  by_cases he : ∀ id, e ≠ .act (.start id)
  · exact (moves_of_step h).inOrder hd (fun a => called_notMem_signs fun id => ⟨(ha.2 id).1, he id⟩) ho
  · obtain ⟨id, rfl⟩ : ∃ id, e = .act (.start id) := by simpa using he
    obtain ⟨⟨s, x⟩, hact, rfl⟩ := Option.map_eq_some_iff.mp h
    cases acts_of_act? hact with
    | observe reading hs => exact ho.of_eq (by rw [hs]; rfl) rfl rfl rfl
    | @start t hf hst =>
      have ht : (q.dequeue t.id).task? t.id = some t := hf
      have hc : q.signs (.act (.start t.id)) = [.called t.admitted] := by simp [signs, callSigns, hf]
      have hm : Move (q.dequeue t.id) [.called t.admitted] ((q.dequeue t.id).startTask t) :=
        .start (task?_eq_some ht).1 hst
      rw [hc]
      refine hm.inOrder (Move.distinct (.unseen q _ _ _) hd) (fun a hm => ?_) ho
      cases List.mem_singleton.mp hm
      obtain ⟨b, hb, hbt⟩ := Option.map_eq_some_iff.mp ((ha.2 t.id).2 rfl)
      obtain ⟨u, hu, rfl⟩ := List.mem_map.mp (List.mem_of_mem_head? hb)
      have hut : q.task? u.id = some u := hd.task?_eq_some (List.mem_filter.mp hu).1
      rw [show u.id = t.id from hbt] at hut
      cases hut.symm.trans hf
      exact hb

end Turnstile.Queue
