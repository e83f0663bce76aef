import Turnstile.Proofs.Queue.Order

namespace Turnstile.Queue

variable {q r : Queue} {id : Nat} {o : Outcome} {auto : Option Outcome} {launcher : Launcher}

def Sign.isDecision : Sign → Bool
  | admitted _ | refused _ _ _ => true
  | _ => false

def decisionsIn (log : List Sign) : List Sign := log.filter Sign.isDecision

theorem admissionsIn_decisionsIn (log : List Sign) : admissionsIn (decisionsIn log) = admissionsIn log := by
  simp only [admissionsIn, decisionsIn, List.filterMap_filter]
  congr 1
  funext s
  cases s <;> rfl

/-- One executor gets from one state to another, and decides on some submissions on the way. -/
def Reaches (p : Queue) (decided : List Sign) (q : Queue) : Prop :=
  ∃ log, Run serial p log q ∧ decisionsIn log = decided

theorem decisionsIn_signs {e : Event} (he : ∀ id job, e ≠ .act (.submit id job)) : decisionsIn (q.signs e) = [] := by
  unfold signs
  split
  case h_2 => exact absurd rfl (he _ _)
  case h_3 | h_4 | h_13 => simp [decisionsIn, callSigns, Sign.isDecision]
  case h_9 => split <;> rfl
  all_goals rfl

theorem admissionsIn_signs {e : Event} (he : ∀ id job, e ≠ .act (.submit id job)) : admissionsIn (q.signs e) = [] := by
  rw [← admissionsIn_decisionsIn, decisionsIn_signs he]
  rfl

namespace Reaches

variable {p : Queue} {decided more : List Sign}

theorem refl (q : Queue) : Reaches q [] q := ⟨[], .refl, rfl⟩

theorem trans (h : Reaches p decided q) (k : Reaches q more r) : Reaches p (decided ++ more) r := by
  obtain ⟨log, h, rfl⟩ := h
  obtain ⟨next, k, rfl⟩ := k
  exact ⟨log ++ next, h.trans k, List.filter_append _ _⟩

theorem snoc (h : Reaches p decided q) (k : Reaches q [] r) : Reaches p decided r := by
  simpa using h.trans k

theorem step {e : Event} (hs : serial q e) (he : ∀ id job, e ≠ .act (.submit id job)) (h : q.step? e = some r) :
    Reaches q [] r :=
  ⟨q.signs e, Run.single hs h, decisionsIn_signs he⟩

theorem sound (h : Reaches q decided r) (hq : Sound q) : Sound r := by
  obtain ⟨log, h, -⟩ := h
  exact Run.sound (h.mono fun _ _ hs => hs.1) hq

theorem schedule (h : q.isRunning = true) (x : Runtime) : Reaches q [] { q with runtime := some x } :=
  .step (e := .schedule x) (by simp [serial, attended]) (by simp) (by simp [step?, h])

end Reaches

/-- The first of those that wait gets a slot, and its task is put on the run queue. -/
def dispatch (launcher : Launcher) (a : Admitted) (rest : List Admitted) (measures : Measures) (q : Queue) : Queue :=
  { q with
    runtime := q.runtime.map fun x => { x with ready := x.ready ++ [⟨a.id, launcher.lane⟩] }
    pending := rest
    inFlight := q.inFlight + 1
    tasks := q.tasks ++ [⟨a, .spawned⟩]
    measures }

/-- What becomes of a queue in which at most one slot can be handed out. -/
inductive Handed (launcher : Launcher) (q : Queue) : Queue → Prop where
  | none (measures : Measures) : Handed launcher q { q with measures }
  | next (a : Admitted) (rest : List Admitted) (measures : Measures) : q.pending = a :: rest →
      Handed launcher q (q.dispatch launcher a rest measures)

theorem claimedBy_append (q : Queue) (tasks : List Task) (launcher : Launcher) :
    claimedBy { q with tasks := q.tasks ++ tasks } launcher =
      q.claimedBy launcher ++ (tasks.filter (·.stage = .claimed launcher)).map Task.id := by
  simp only [claimedBy, List.filter_append, List.map_append]

theorem spawn_grant {a : Admitted} (hd : ∀ t ∈ q.tasks, t.id ≠ a.id) (rest : List Admitted) (measures : Measures) :
    spawn launcher a.id { q.grant launcher a rest with measures } = q.dispatch launcher a rest measures := by
  have hq : q.tasks.map (fun t => if t.id = a.id then { t with stage := .spawned } else t) = q.tasks :=
    (List.map_congr_left fun t ht => by simp [hd t ht]).trans (List.map_id _)
  have ha : (⟨a, .claimed launcher⟩ : Task).id = a.id := rfl
  simp only [spawn, setStage, grant, enqueue, dispatch, List.map_append, List.map_cons, List.map_nil, hq, ha, if_true]

theorem claim_eq_of_full (launcher : Launcher) (hr : q.isRunning = true) (h : q.pending = [] ∨ q.slots ≤ q.inFlight) :
    q.claim launcher = { q with measures := (q.claim launcher).measures } := by
  have hz : min (q.slots - q.inFlight) q.pending.length = 0 := by
    obtain h | h := h
    · simp [h]
    · omega
  simp [claim, hr, hz]

theorem claim_eq_grant {a : Admitted} {rest : List Admitted} (launcher : Launcher) (hr : q.isRunning = true)
    (hp : q.pending = a :: rest) (hs : q.inFlight < q.slots) (hn : q.slots - q.inFlight ≤ 1 ∨ q.pending.length ≤ 1) :
    q.claim launcher = { q.grant launcher a rest with measures := (q.claim launcher).measures } := by
  have hz : min (q.slots - q.inFlight) q.pending.length = 1 := by
    rw [hp, List.length_cons] at hn ⊢
    omega
  simp only [claim, hr, hz, if_true]
  simp [grant, hp]

theorem Sound.one_free (h : Sound q) : q.slots - (q.inFlight - 1) ≤ 1 ∨ q.pending.length ≤ 1 := by
  have hb := h.balanced.slots
  obtain hp | hs := h.tight
  · exact .inr (by simp [hp])
  · exact .inl (by omega)

theorem handed_launch (hd : Distinct q) (hr : q.isRunning = true) (hc : q.claimedBy launcher = [])
    (hn : q.slots - q.inFlight ≤ 1 ∨ q.pending.length ≤ 1) :
    Handed launcher q ((q.claim launcher).launch launcher) ∧
      Reaches (q.claim launcher) [] ((q.claim launcher).launch launcher) := by
  -- The launcher has nothing left from before, so what it starts now is exactly what it claims now.
  by_cases h : q.pending = [] ∨ q.slots ≤ q.inFlight
  · have hm := claim_eq_of_full launcher hr h
    have hq : (q.claim launcher).claimedBy launcher = [] := by
      rw [hm]
      exact hc
    have hl : (q.claim launcher).launch launcher = q.claim launcher := by
      simp only [launch, hq, List.foldl_nil]
    rw [hl]
    exact ⟨hm ▸ .none _, .refl _⟩
  · obtain ⟨hp, hs⟩ := not_or.mp h
    obtain ⟨a, rest, hp⟩ := List.exists_cons_of_ne_nil hp
    have hm := claim_eq_grant launcher hr hp (Nat.lt_of_not_le hs) hn
    have hq : (q.claim launcher).claimedBy launcher = [a.id] := by
      rw [hm]
      refine (claimedBy_append q _ launcher).trans ?_
      rw [hc]
      simp [Task.id]
    have hl : (q.claim launcher).launch launcher = (q.claim launcher).spawn launcher a.id := by
      simp only [launch, hq, List.foldl_cons, List.foldl_nil]
    have hne : ∀ t ∈ q.tasks, t.id ≠ a.id := fun t ht => (hd.pending_ne ht (by simp [hp])).symm
    have hrun : (q.claim launcher).isRunning = true := by
      rw [hm]
      exact hr
    rw [hl]
    constructor
    · rw [hm, spawn_grant hne]
      exact .next a rest _ hp
    · exact .step (e := .act (.spawn launcher)) (by simp [serial, attended]) (by simp) (by simp [step?, act?, hq, hrun])

end Turnstile.Queue
