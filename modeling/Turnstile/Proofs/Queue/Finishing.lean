import Turnstile.Proofs.Queue.Completion

namespace Turnstile.Queue

variable {q r : Queue} {a : Admitted} {us : List Task} {log : List Sign} {id looks : Nat}

theorem length_running (q : Queue) : q.running.length = q.count (· = .calling) := List.countP_eq_length_filter.symm

theorem Move.running_le_peak (h : Move q log r) (hd : Distinct q) (hp : q.running.length ≤ q.peak) :
    r.running.length ≤ r.peak := by
  have hset {t : Task} {u : Stage} (ht : t ∈ q.tasks) (hu : u ≠ .calling) :
      (q.setStage t.id u).running.length ≤ q.peak := by
    obtain ⟨before, after, hst⟩ := hd.stands ht
    have hc := count_setStage hst (· = .calling) u
    simp only [hu, decide_false, Bool.toNat_false] at hc
    rw [length_running] at hp ⊢
    omega
  have hremove {t : Task} (ht : t ∈ q.tasks) : (q.removeTask t.id).running.length ≤ q.peak := by
    obtain ⟨before, after, hst⟩ := hd.stands ht
    have hc := count_removeTask hst (· = .calling)
    rw [length_running] at hp ⊢
    omega
  cases h with
  | unseen | noRuntime | draw | enter | refuse | countRefusal | dropTicket | take => exact hp
  | @grant a rest launcher =>
    have hr : (q.grant launcher a rest).running = q.running := by
      simp [running, Queue.grant]
    rw [hr]
    exact hp
  | spawn ht => exact hset ht (by simp)
  | start => exact Nat.le_max_right _ _
  | finish o ht => exact hset ht (by simp)
  | @countEnd t o ht => exact hset (u := .counted o) ht (by simp)
  | @countFailure t o ht =>
    rw [countFailure_eq]
    exact hset (u := .recorded o) ht (by simp)
  | @free t o ht => exact hset (u := .released o) ht (by simp)
  | reply ht => exact hremove ht
  | @abandon t how u ht hl =>
    refine hset (u := u) ht ?_
    rintro rfl
    cases hl.isLeaving
  | depart ht => exact hremove ht

theorem Moves.running_le_peak (h : Moves q log r) (hd : Distinct q) (hp : q.running.length ≤ q.peak) :
    r.running.length ≤ r.peak := by
  induction h with
  | refl => exact hp
  | move hm m ih => exact m.running_le_peak (hm.distinct hd) ih

theorem settleWithin_of_idle (hr : q.runtime = some ⟨looks, []⟩) (auto : Option Outcome) (fuel : Nat) :
    q.settleWithin auto (fuel + 1) = { q with runtime := some ⟨looks + 1, []⟩ } := by
  simp [settleWithin, look, hr, Runtime.next?, Runtime.firstOf]

theorem look_of_single {x : Ready} (hr : q.runtime = some ⟨looks, [x]⟩) :
    q.look = (some x.id, { q with runtime := some ⟨looks + 1, []⟩ }) := by
  simp [look, hr, Paused.next?_singleton, dequeue]

theorem settleWithin_of_ready {lane : Lane} (hr : q.runtime = some ⟨looks, [⟨a.id, lane⟩]⟩)
    (hst : Stands q ⟨a, .spawned⟩ us []) (fuel : Nat) :
    q.settleWithin none (fuel + 2) = { q.startTask ⟨a, .spawned⟩ with runtime := some ⟨looks + 2, []⟩ } := by
  have ht : task? { q with runtime := some ⟨looks + 1, []⟩ } a.id = some ⟨a, .spawned⟩ := by
    have hn : us.find? (·.id == a.id) = none :=
      List.find?_eq_none.mpr fun u hu he => hst.ne u (List.mem_append_left _ hu) (eq_of_beq he)
    have hid : (⟨a, .spawned⟩ : Task).id = a.id := rfl
    simp [task?, hst.tasks, List.find?_append, hn, hid]
  have hs : stage? { q with runtime := some ⟨looks + 1, []⟩ } a.id = some .spawned := by rw [stage?, ht]; rfl
  have hresume : resume none a.id { q with runtime := some ⟨looks + 1, []⟩ } =
      startTask ⟨a, .spawned⟩ { q with runtime := some ⟨looks + 1, []⟩ } := by
    simp only [resume, hs]
    exact start_eq ht
  rw [settleWithin, look_of_single hr]
  simp only
  rw [hresume, settleWithin_of_idle rfl]
  rfl

/-- A call ends, and everything that this sets off happens. -/
def finishing (id : Nat) (o : Outcome) (q : Queue) : Queue := q.operate none (.finish id o)

/-- A slot goes to the first of those that wait, if there is one, whose call starts at once. -/
def promote (q : Queue) : Queue :=
  match q.pending with
  | [] =>
    { q with
      runtime := q.runtime.map fun x => ⟨x.looks + 2, x.ready⟩
      measures := { q.measures with gauges := some (0, q.inFlight) } }
  | a :: rest =>
    { q with
      runtime := q.runtime.map fun x => ⟨x.looks + 3, x.ready⟩
      pending := rest
      inFlight := q.inFlight + 1
      tasks := q.tasks ++ [⟨a, .calling⟩]
      calls := q.calls ++ [a]
      measures := { q.measures with gauges := some (rest.length, q.inFlight + 1), waits := q.measures.waits + 1 } }

/-- The call of the job that gets the slot starts before anything else happens. -/
theorem settleWithin_handOn (hr : q.runtime = some ⟨looks + 1, []⟩) (hne : ∀ a ∈ q.pending, ∀ t ∈ q.tasks, t.id ≠ a.id)
    (hp : q.tasks.length < q.peak) :
    settleWithin none (2 * q.pending.length + 1) q.handOn = promote { q with runtime := some ⟨looks, []⟩ } := by
  by_cases hpend : q.pending = []
  · have hq : runtime { q with measures := { q.measures with gauges := some (0, q.inFlight) } } =
        some ⟨looks + 1, []⟩ := hr
    rw [handOn_of_nil hpend, settleWithin_of_idle hq]
    simp only [promote, hpend, Option.map_some]
  · obtain ⟨a, rest, hpend⟩ := List.exists_cons_of_ne_nil hpend
    have hst : Stands
        (q.dispatch (.release a.id) a rest { q.measures with gauges := some (rest.length, q.inFlight + 1) })
        ⟨a, .spawned⟩ q.tasks [] := by
      refine ⟨rfl, fun u hu => ?_⟩
      rw [List.append_nil] at hu
      exact hne a (by simp [hpend]) u hu
    have hlen : 2 * q.pending.length + 1 = 2 * rest.length + 1 + 2 := by
      rw [hpend, List.length_cons]
      omega
    have hready : (q.dispatch (.release a.id) a rest
        { q.measures with gauges := some (rest.length, q.inFlight + 1) }).runtime =
          some ⟨looks + 1, [⟨a.id, .inside⟩]⟩ := by
      simp [dispatch, hr, Launcher.lane]
    have htasks := hst.setStage .calling
    have hpeak : max q.peak ((q.tasks ++ [(⟨a, .calling⟩ : Task)]).filter (·.stage = .calling)).length = q.peak := by
      refine Nat.max_eq_left (Nat.le_trans (List.length_filter_le _ _) ?_)
      rw [List.length_append, List.length_singleton]
      exact hp
    simp only [dispatch, setStage] at htasks
    rw [handOn_of_cons hpend, hlen, settleWithin_of_ready hready hst]
    simp only [promote, hpend, startTask, setStage, dispatch, Option.map_some, running, htasks, hpeak]

theorem finishing_eq_settleWithin (h : Paused [] q) (hr : q.runtime = some ⟨looks, []⟩)
    (hst : q.stage? id = some .calling) (o : Outcome) : q.finishing id o =
      settleWithin none (2 * q.pending.length + 1)
        (conclude id o { q with runtime := some ⟨looks + 1, []⟩ }).handOn := by
  have hbegin : (q.finish id o).enqueue id .outside =
      { q.finish id o with runtime := some ⟨looks, [⟨id, .outside⟩]⟩ } := by
    simp [enqueue, finish, setStage, hr]
  have hs : Sound { q with runtime := some ⟨looks + 1, []⟩ } :=
    (Reaches.schedule (isRunning_of_runtime hr) _).sound h.sound
  have hend : stage? { q.finish id o with runtime := some ⟨looks + 1, []⟩ } id = some (.ended o) := stage?_setStage hst
  rw [finishing, operate, perform, endCall, if_pos hst, hbegin, settle]
  change settleWithin none (2 * q.pending.length + 1 + 1) _ = _
  rw [settleWithin, look_of_single rfl]
  simp only [resume, hend]
  exact congrArg _ (completing_eq hs rfl hst (h.claimedBy _) o)

theorem finishing_eq (h : Paused [] q) (hp : q.running.length ≤ q.peak) (hst : q.stage? id = some .calling)
    (o : Outcome) : q.finishing id o = (q.conclude id o).promote := by
  obtain ⟨t, ht, rfl, hcalling⟩ := exists_task_of_stage? hst
  obtain ⟨before, after, hstands⟩ := h.sound.distinct.stands ht
  have hr : q.isRunning = true := by
    cases hr : q.isRunning with
    | true => rfl
    | false => simp [h.stopped hr] at ht
  obtain ⟨⟨looks, ready⟩, hrt⟩ := Option.isSome_iff_exists.mp hr
  obtain rfl : ready = [] := h.ready _ hrt
  rw [finishing_eq_settleWithin h hrt hst]
  have htasks := tasks_conclude t.id o { q with runtime := some ⟨looks + 1, []⟩ }
  refine (settleWithin_handOn (q := conclude t.id o { q with runtime := some ⟨looks + 1, []⟩ }) rfl ?_ ?_).trans ?_
  · intro a ha u hu
    rw [htasks] at hu
    exact (h.sound.distinct.pending_ne (List.mem_filter.mp hu).1 ha).symm
  · have hall : q.running = q.tasks := List.filter_eq_self.mpr fun u hu => by
      simpa using (h.stages u hu).resolve_right (by simp)
    rw [htasks]
    rw [hall] at hp
    exact Nat.lt_of_lt_of_le (List.length_filter_lt_length_iff_exists.mpr ⟨t, ht, by simp⟩) hp
  · rw [← hrt]
    rfl

end Turnstile.Queue
