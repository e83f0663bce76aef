import Turnstile.Proofs.Queue.Operation

namespace Turnstile.Queue

variable {q : Queue} {t : Task} {before after : List Task} {launcher : Launcher} {id : Nat} {ids : List Nat}

def claimedAmong (launcher : Launcher) (tasks : List Task) : List Nat :=
  (tasks.filter (·.stage = .claimed launcher)).map Task.id

theorem claimedAmong_append (launcher : Launcher) (ts us : List Task) :
    claimedAmong launcher (ts ++ us) = claimedAmong launcher ts ++ claimedAmong launcher us := by
  simp only [claimedAmong, List.filter_append, List.map_append]

theorem claimedAmong_cons (launcher : Launcher) (t : Task) (ts : List Task) :
    claimedAmong launcher (t :: ts) =
      (if t.stage = .claimed launcher then [t.id] else []) ++ claimedAmong launcher ts := by
  by_cases h : t.stage = .claimed launcher <;> simp [claimedAmong, h]

/-- The first of the claimed jobs is the only one that is missing after its task was started. -/
theorem claimedBy_spawn (hd : Distinct q) (hc : q.claimedBy launcher = id :: ids) :
    (q.spawn launcher id).claimedBy launcher = ids := by
  obtain ⟨t, ht, rfl, hs⟩ := claimedBy_head hc
  obtain ⟨before, after, h⟩ := hd.stands ht
  have hq : claimedAmong launcher before ++ t.id :: claimedAmong launcher after = t.id :: ids := by
    rw [← hc]
    change _ = claimedAmong launcher q.tasks
    rw [h.tasks, claimedAmong_append, claimedAmong_cons, if_pos hs]
    rfl
  have hb : claimedAmong launcher before = [] := by
    cases hl : claimedAmong launcher before with
    | nil => rfl
    | cons i rest =>
      rw [hl, List.cons_append, List.cons.injEq] at hq
      obtain ⟨u, hu, hi⟩ := List.mem_map.mp (show i ∈ claimedAmong launcher before by simp [hl])
      exact absurd (hi.trans hq.1) (h.ne u (List.mem_append_left _ (List.mem_filter.mp hu).1))
  rw [hb, List.nil_append, List.cons.injEq] at hq
  change claimedAmong launcher (q.setStage t.id .spawned).tasks = ids
  rw [h.setStage, claimedAmong_append, claimedAmong_cons, hb, hq.2]
  simp

theorem Distinct.spawn (h : Distinct q) (launcher : Launcher) (id : Nat) : Distinct (q.spawn launcher id) :=
  (h.setStage id .spawned).of_sublist (List.Sublist.refl _) (Nat.le_refl _) (List.Sublist.refl _)

theorem play?_launch (launcher : Launcher) (hr : q.isRunning = true) (hd : Distinct q) :
    q.play? ((q.claimedBy launcher).map fun _ => .act (.spawn launcher)) = some ([], q.launch launcher) := by
  unfold launch
  generalize hc : q.claimedBy launcher = ids
  induction ids generalizing q with
  | nil => rfl
  | cons id ids ih =>
    have hstep : q.step? (.act (.spawn launcher)) = some (q.spawn launcher id) := by simp [step?, act?, hc, hr]
    have hrun : (q.spawn launcher id).isRunning = true := by
      simpa [isRunning, spawn, setStage, enqueue] using hr
    have hrest := ih hrun (hd.spawn launcher id) (claimedBy_spawn hd hc)
    simp only [List.map_cons, List.foldl_cons, play?, hstep, Option.bind_eq_bind, Option.bind_some, hrest]
    rfl

theorem moves_launch (launcher : Launcher) (hr : q.isRunning = true) (hd : Distinct q) :
    Moves q [] (q.launch launcher) := by
  have hrun : Run (fun _ _ => True) q [] (q.launch launcher) :=
    run_of_play? (fun _ _ _ => trivial) (play?_launch launcher hr hd)
  exact hrun.moves

theorem totals_launch (launcher : Launcher) (q : Queue) : (q.launch launcher).totals = q.totals := by
  unfold launch
  induction q.claimedBy launcher generalizing q with
  | nil => rfl
  | cons id ids ih => exact ih (q.spawn launcher id)

theorem isRunning_claim (launcher : Launcher) (q : Queue) : (q.claim launcher).isRunning = q.isRunning := by
  unfold claim
  split <;> rfl

theorem totals_claim (launcher : Launcher) (q : Queue) : (q.claim launcher).totals = q.totals := by
  unfold claim
  split <;> rfl

/-- A submission is a row of effects, of which nothing is seen but whether the job was admitted. -/
theorem moves_submit (job : Job) (hd : Distinct q) :
    Moves q [.ofSubmission q.nextId job (q.submit job).1] (q.submit job).2 := by
  cases hr : q.isRunning with
  | false =>
    simp only [submit, hr, Bool.not_false, if_true]
    exact .single (.noRuntime q)
  | true =>
    have hdraw : q.nextId ∈ q.draw.drawn := by simp [draw]
    obtain hp | hp := Nat.lt_or_ge q.pending.length q.room
    · rw [submit_of_room job hr hp]
      have henter : Move q.draw [.admitted ⟨q.nextId, job⟩] (q.draw.enter q.nextId job) := .enter hdraw hp
      have hacc : Moves q [.admitted ⟨q.nextId, job⟩] (q.draw.accept q.nextId job) :=
        ((Moves.single (.draw q)).trans (.single henter)).snoc (moves_claim _ _)
      have hrun : (q.draw.accept q.nextId job).isRunning = true := by
        rw [accept, isRunning_claim]
        exact hr
      exact hacc.snoc (moves_launch _ hrun (hacc.distinct hd))
    · rw [submit_of_full job hr hp]
      have href : Moves q [.refused q.nextId q.pending.length q.room] (q.draw.refuse q.nextId) :=
        (Moves.single (.draw q)).trans (.single (.refuse hdraw hp))
      exact href.snoc (.single (.countRefusal (Nat.succ_pos _)))

end Turnstile.Queue
