import Turnstile.Proofs.Queue.Move

namespace Turnstile.Queue

variable {q r : Queue} {t : Task} {before after : List Task}

/-- The jobs that are not done with: those with a task, and those that wait for one. -/
def live (q : Queue) : List Admitted := q.tasks.map Task.admitted ++ q.pending

theorem mem_live_of_task (h : t ∈ q.tasks) : t.admitted ∈ q.live :=
  List.mem_append_left _ (List.mem_map_of_mem h)

theorem mem_live_of_pending {a : Admitted} (h : a ∈ q.pending) : a ∈ q.live := List.mem_append_right _ h

structure Distinct (q : Queue) : Prop where
  nodup : (q.drawn ++ q.live.map Admitted.id).Nodup
  lt : ∀ id ∈ q.drawn ++ q.live.map Admitted.id, id < q.nextId

/-- Where a task stands among the others. -/
structure Stands (q : Queue) (t : Task) (before after : List Task) : Prop where
  tasks : q.tasks = before ++ t :: after
  ne : ∀ u ∈ before ++ after, u.id ≠ t.id

namespace Stands

theorem setStage (h : Stands q t before after) (s : Stage) :
    (q.setStage t.id s).tasks = before ++ { t with stage := s } :: after := by
  have hid (us : List Task) (hu : ∀ u ∈ us, u.id ≠ t.id) :
      us.map (fun u => if u.id = t.id then { u with stage := s } else u) = us :=
    (List.map_congr_left fun u hm => by simp [hu u hm]).trans (List.map_id us)
  have hb := hid before fun u hu => h.ne u (by simp [hu])
  have ha := hid after fun u hu => h.ne u (by simp [hu])
  simp only [Queue.setStage, h.tasks, List.map_append, List.map_cons, hb, ha, if_true]

theorem removeTask (h : Stands q t before after) : (q.removeTask t.id).tasks = before ++ after := by
  have hid (us : List Task) (hu : ∀ u ∈ us, u.id ≠ t.id) : us.filter (fun u => u.id ≠ t.id) = us :=
    List.filter_eq_self.mpr fun u hm => by simp [hu u hm]
  have hb := hid before fun u hu => h.ne u (by simp [hu])
  have ha := hid after fun u hu => h.ne u (by simp [hu])
  simp only [Queue.removeTask, h.tasks, List.filter_append, List.filter_cons, hb, ha]
  simp

end Stands

theorem map_admitted_setStage (q : Queue) (id : Nat) (s : Stage) :
    (q.setStage id s).tasks.map Task.admitted = q.tasks.map Task.admitted := by
  simp only [setStage, List.map_map]
  apply List.map_congr_left
  intro t _
  by_cases ht : t.id = id <;> simp [ht]

theorem live_setStage (q : Queue) (id : Nat) (s : Stage) : (q.setStage id s).live = q.live := by
  simp only [live, map_admitted_setStage]
  rfl

theorem live_grant {a : Admitted} {rest : List Admitted} (hp : q.pending = a :: rest) (launcher : Launcher) :
    (q.grant launcher a rest).live = q.live := by
  simp [live, grant, hp]

theorem live_removeTask_sublist (q : Queue) (id : Nat) : (q.removeTask id).live.Sublist q.live :=
  (List.filter_sublist.map _).append (List.Sublist.refl _)

theorem mem_live_removeTask {a : Admitted} {id : Nat} (h : a ∈ q.live) (hid : a.id ≠ id) :
    a ∈ (q.removeTask id).live := by
  obtain h | h := List.mem_append.mp h
  · obtain ⟨t, ht, rfl⟩ := List.mem_map.mp h
    exact mem_live_of_task (List.mem_filter.mpr ⟨ht, decide_eq_true hid⟩)
  · exact mem_live_of_pending h

theorem find?_of_nodup {α : Type} {f : α → Nat} {l : List α} {a : α} (hn : (l.map f).Nodup) (ha : a ∈ l) :
    l.find? (fun b => f b == f a) = some a := by
  induction l with
  | nil => cases ha
  | cons b l ih =>
    rw [List.map_cons, List.nodup_cons] at hn
    obtain rfl | ha := List.mem_cons.mp ha
    · simp
    · have hne : ¬(f b == f a) = true := fun he => hn.1 (eq_of_beq he ▸ List.mem_map_of_mem ha)
      rw [List.find?_cons_of_neg (p := fun c => f c == f a) hne]
      exact ih hn.2 ha

namespace Distinct

theorem ne_of_mem_drawn {id : Nat} {a : Admitted} (h : Distinct q) (hid : id ∈ q.drawn) (ha : a ∈ q.live) :
    a.id ≠ id := fun he =>
  (List.nodup_append.mp h.nodup).2.2 id hid a.id (List.mem_map_of_mem ha) he.symm

theorem pending_ne {a : Admitted} (h : Distinct q) (ht : t ∈ q.tasks) (ha : a ∈ q.pending) : a.id ≠ t.id := by
  have hl := (List.nodup_append.mp h.nodup).2.1
  rw [live, List.map_append] at hl
  have hm : t.id ∈ (q.tasks.map Task.admitted).map Admitted.id := List.mem_map_of_mem (List.mem_map_of_mem ht)
  exact fun he => (List.nodup_append.mp hl).2.2 _ hm _ (List.mem_map_of_mem ha) he.symm

theorem nodup_tasks (h : Distinct q) : (q.tasks.map Task.id).Nodup := by
  have hl := (List.nodup_append.mp h.nodup).2.1
  rw [live, List.map_append, List.map_map] at hl
  exact (List.nodup_append.mp hl).1

theorem stands (h : Distinct q) (ht : t ∈ q.tasks) : ∃ before after, Stands q t before after := by
  obtain ⟨before, after, hs⟩ := List.append_of_mem ht
  refine ⟨before, after, hs, fun u hu => ?_⟩
  have hn := h.nodup_tasks
  have hp : ((t :: (before ++ after)).map Task.id).Nodup :=
    (List.perm_middle.map _).nodup_iff.mp (hs ▸ hn)
  rw [List.map_cons, List.nodup_cons] at hp
  exact fun hid => hp.1 (hid ▸ List.mem_map_of_mem hu)

theorem task?_eq_some (h : Distinct q) (ht : t ∈ q.tasks) : q.task? t.id = some t :=
  find?_of_nodup h.nodup_tasks ht

theorem of_sublist (h : Distinct q) (hd : r.drawn.Sublist q.drawn) (hn : q.nextId ≤ r.nextId)
    (hl : r.live.Sublist q.live) : Distinct r where
  nodup := h.nodup.sublist (hd.append (hl.map _))
  lt id hid := Nat.lt_of_lt_of_le (h.lt id ((hd.append (hl.map _)).subset hid)) hn

theorem setStage (h : Distinct q) (id : Nat) (s : Stage) : Distinct (q.setStage id s) := by
  have hl : (q.setStage id s).live.Sublist q.live := live_setStage q id s ▸ List.Sublist.refl _
  exact h.of_sublist (List.Sublist.refl _) (Nat.le_refl _) hl

theorem grant {a : Admitted} {rest : List Admitted} (h : Distinct q) (hp : q.pending = a :: rest)
    (launcher : Launcher) : Distinct (q.grant launcher a rest) := by
  have hl : (q.grant launcher a rest).live.Sublist q.live := live_grant hp launcher ▸ List.Sublist.refl _
  exact h.of_sublist (List.Sublist.refl _) (Nat.le_refl _) hl

theorem draw (h : Distinct q) : Distinct q.draw := by
  have hp : (q.draw.drawn ++ q.live.map Admitted.id).Perm (q.nextId :: (q.drawn ++ q.live.map Admitted.id)) := by
    simp [Queue.draw]
  refine ⟨hp.nodup_iff.mpr (List.nodup_cons.mpr ⟨fun hm => Nat.lt_irrefl _ (h.lt _ hm), h.nodup⟩), fun id hid => ?_⟩
  obtain rfl | hm := List.mem_cons.mp (hp.mem_iff.mp hid)
  · exact Nat.lt_succ_self _
  · exact Nat.lt_succ_of_lt (h.lt id hm)

theorem enter {id : Nat} (h : Distinct q) (hid : id ∈ q.drawn) (job : Job) : Distinct (q.enter id job) := by
  have hp : ((q.enter id job).drawn ++ (q.enter id job).live.map Admitted.id).Perm
      (q.drawn ++ q.live.map Admitted.id) := by
    have hl : (q.enter id job).live.map Admitted.id = q.live.map Admitted.id ++ [id] := by
      simp [live, Queue.enter]
    rw [hl, ← List.append_assoc]
    calc (q.drawn.erase id ++ q.live.map Admitted.id) ++ [id]
      _ |>.Perm (id :: (q.drawn.erase id ++ q.live.map Admitted.id)) := List.perm_append_singleton _ _
      _ |>.Perm (q.drawn ++ q.live.map Admitted.id) := (List.perm_cons_erase hid).symm.append_right _
  exact ⟨hp.nodup_iff.mpr h.nodup, fun i hi => h.lt i (hp.mem_iff.mp hi)⟩

end Distinct

theorem Move.distinct {log : List Sign} (h : Move q log r) (hd : Distinct q) : Distinct r := by
  cases h with
  | unseen | noRuntime | countRefusal | dropTicket | take =>
    exact hd.of_sublist (List.Sublist.refl _) (Nat.le_refl _) (List.Sublist.refl _)
  | draw => exact hd.draw
  | enter hid => exact hd.enter hid _
  | refuse => exact hd.of_sublist List.erase_sublist (Nat.le_refl _) (List.Sublist.refl _)
  | grant launcher hp => exact hd.grant hp launcher
  | countFailure =>
    rw [countFailure_eq]
    exact (hd.setStage _ _).of_sublist (List.Sublist.refl _) (Nat.le_refl _) (List.Sublist.refl _)
  | spawn | start | finish | countEnd | free | abandon =>
    exact (hd.setStage _ _).of_sublist (List.Sublist.refl _) (Nat.le_refl _) (List.Sublist.refl _)
  | reply | depart => exact hd.of_sublist (List.Sublist.refl _) (Nat.le_refl _) (live_removeTask_sublist _ _)

theorem distinct_new (limits : Config.Queue) : Distinct (new limits) := by
  constructor <;> simp [new, live]

theorem Moves.distinct {log : List Sign} (h : Moves q log r) (hd : Distinct q) : Distinct r := by
  induction h with
  | refl => exact hd
  | move _ m ih => exact m.distinct ih

end Turnstile.Queue
