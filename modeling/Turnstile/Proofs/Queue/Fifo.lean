import Turnstile.Proofs.Queue.Operation

namespace Turnstile.Queue

variable {q : Queue} {log : List Sign} {limits : Config.Queue}

/-- The call of the task has ended or its job got lost, and its slot has not been given back yet. -/
def Stage.isEnding : Stage → Bool
  | ended _ | counted _ | recorded _ | discarded _ | crashed => true
  | _ => false

theorem Told.unfinishedIn_eq (h : Told log q) (hs : ∀ t ∈ q.tasks, t.stage.isEnding = false) :
    unfinishedIn log = (admissionsIn log).filter (·.id ∉ endingsIn log) := by
  refine List.filter_congr fun a ha => decide_eq_decide.mpr (not_congr ?_)
  rw [mem_departuresIn_iff_story, mem_endingsIn_iff_story]
  obtain hl | ho := h.closed a (mem_admissionsIn.mp ha)
  · obtain hl | hl := List.mem_append.mp hl
    · obtain ⟨t, ht, rfl⟩ := List.mem_map.mp hl
      have hns := hs t ht
      rw [h.story_task ht]
      cases hstage : t.stage <;> simp_all [Stage.told, Stage.isEnding]
    · simp [h.story_pending hl]
  · generalize story a.id log = s at ho
    cases ho with
    | answered o => simp [Stage.told]
    | lost s hl =>
      cases s with
      | discarded called => cases called <;> simp [Stage.told]
      | crashed => simp [Stage.told]
      | _ => cases hl

theorem Run.inOrder (h : Run serial (new limits) log q) : InOrder log q := by
  induction h with
  | refl => exact List.Sublist.refl _
  | step h ha hs ih =>
    exact inOrder_of_step ha (h.moves.distinct (distinct_new limits)) ih hs

/-- The queue is one line before as many servers as there are slots. Whatever happens, and in whichever order, the jobs
that hold a slot are the first in line and the others wait in line behind them, so no job waits beside a free slot. With
operations taken one at a time, calls start in line as well, and none of them before that of an older job that waits. -/
theorem first_come_first_served (limits : Config.Queue) :
    (∀ log q, Run attended (new limits) log q →
      (Line.empty limits).follow? log =
        some ⟨limits.maxConcurrency.toNat, limits.maxQueueSize.toNat, unfinishedIn log⟩ ∧
      q.holding.map Task.admitted = (unfinishedIn log).take limits.maxConcurrency.toNat ∧
      q.pending = (unfinishedIn log).drop limits.maxConcurrency.toNat ∧
      (q.pending ≠ [] → q.inFlight = limits.maxConcurrency.toNat) ∧
      ((∀ t ∈ q.tasks, t.stage.isEnding = false) →
        unfinishedIn log = (admissionsIn log).filter (·.id ∉ endingsIn log))) ∧
    ∀ admitted q, Operated limits admitted q →
      (∃ log, Run attended (new limits) log q ∧ admissionsIn log = admitted) ∧
      (∀ t ∈ q.tasks, t.stage = .calling) ∧ (q.calls ++ q.pending).Sublist admitted := by
  constructor
  · intro log q h
    have ht : Told log q := h.moves.told (.new limits)
    have hs := h.sound (.new limits)
    have hl : q.limits = limits := h.moves.limits
    obtain ⟨hserved, hwaiting⟩ := line_of_tight ht hs.balanced hs.tight
    have hline : line log q = ⟨limits.maxConcurrency.toNat, limits.maxQueueSize.toNat, unfinishedIn log⟩ := by
      simp only [line, slots, room, hl]
    rw [hline] at hserved hwaiting
    refine ⟨hline ▸ h.follows, hserved, hwaiting, fun hp => ?_, ht.unfinishedIn_eq⟩
    have hfull : q.slots ≤ q.inFlight := hs.tight.resolve_left hp
    rw [slots, hl] at hfull
    exact Nat.le_antisymm (hl ▸ hs.balanced.slots) hfull
  · intro admitted q h
    obtain ⟨⟨log, hr, rfl⟩, hp⟩ := h.reaches
    have hcall : ∀ t ∈ q.tasks, t.stage = .calling := fun t ht => (hp.stages t ht).resolve_right (by simp)
    have hu : q.unstarted = [] := by
      simp only [unstarted, unstartedAmong, List.map_eq_nil_iff, List.filter_eq_nil_iff]
      intro t ht
      simp [hcall t ht, Stage.isUnstarted]
    have ho := hr.inOrder
    rw [InOrder, hu, List.append_nil] at ho
    exact ⟨⟨log, hr.mono fun _ _ hs => hs.1, rfl⟩, hcall, ho⟩

theorem first_come_first_served_overtaking :
    (∃ log q, (new ⟨1, 1⟩).play? overtaking = some (log, q) ∧ (unfinishedIn log).map Admitted.id = [1] ∧
      (Line.empty ⟨1, 1⟩).follow? log = some ⟨1, 1, unfinishedIn log⟩ ∧
      q.holding.map Task.admitted = (unfinishedIn log).take 1 ∧ q.pending = (unfinishedIn log).drop 1 ∧
      (q.pending ≠ [] → q.inFlight = 1)) ∧
    ∃ admitted q, Operated ⟨1, 1⟩ admitted q ∧ q.calls.map Admitted.id = [1, 2] ∧ q.pending.map Admitted.id = [3] ∧
      (∀ t ∈ q.tasks, t.stage = .calling) ∧ (q.calls ++ q.pending).Sublist admitted := by
  constructor
  · obtain ⟨log, q, h, hid⟩ : ∃ log q, (new ⟨1, 1⟩).play? overtaking = some (log, q) ∧
        (unfinishedIn log).map Admitted.id = [1] := ⟨_, _, rfl, rfl⟩
    have hrun : Run attended (new ⟨1, 1⟩) log q := run_of_play? attended_overtaking h
    obtain ⟨hf, hs, hw, ht, -⟩ := (first_come_first_served ⟨1, 1⟩).1 log q hrun
    exact ⟨log, q, h, hid, hf, hs, hw, ht⟩
  · have hfirst : Operated ⟨1, 1⟩ _ _ := .operate none (.submit plainJob) .new
    have hsecond : Operated ⟨1, 1⟩ _ _ := .operate none (.submit plainJob) hfirst
    have hend : Operated ⟨1, 1⟩ _ _ := .operate none (.finish 1 .panic) hsecond
    obtain ⟨admitted, q, h, hc, hp⟩ : ∃ admitted q, Operated ⟨1, 1⟩ admitted q ∧ q.calls.map Admitted.id = [1, 2] ∧
        q.pending.map Admitted.id = [3] := ⟨_, _, .operate none (.submit plainJob) hend, rfl, rfl⟩
    obtain ⟨-, hcall, ho⟩ := (first_come_first_served ⟨1, 1⟩).2 admitted q h
    exact ⟨admitted, q, h, hc, hp, hcall, ho⟩

end Turnstile.Queue
