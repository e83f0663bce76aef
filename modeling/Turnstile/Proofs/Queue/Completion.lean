import Turnstile.Proofs.Queue.Draining

namespace Turnstile.Queue

variable {q r : Queue} {t : Task} {a : Admitted} {rest : List Admitted} {log more : List Sign} {id : Nat} {e : Event}
  {o : Outcome} {launcher : Launcher} {limits : Config.Queue} {outcome : Nat → Outcome}

theorem setStage_setStage (q : Queue) (id : Nat) (s u : Stage) : (q.setStage id s).setStage id u = q.setStage id u := by
  simp only [setStage, List.map_map, Queue.mk.injEq, true_and, and_true]
  apply List.map_congr_left
  intro t _
  by_cases h : t.id = id
  · have hs : ({ t with stage := s } : Task).id = id := h
    simp [h, hs]
  · simp [h]

/-- The task of a call that has ended, up to the moment in which its slot is handed out again. -/
def account (id : Nat) (o : Outcome) (q : Queue) : Queue :=
  { q.setStage id (.released o) with
    inFlight := q.inFlight - 1
    totals := { q.totals with
      completed := q.totals.completed + 1
      failed := q.totals.failed + if o.isFailure then 1 else 0 }
    measures := { q.measures with failed := q.measures.failed + if o.isFailure then 1 else 0 } }

/-- What is left of a queue when a call has been counted and answered, but for the slot. -/
def conclude (id : Nat) (o : Outcome) (q : Queue) : Queue := (q.account id o).reply id o

/-- A slot goes to the first of those that wait, if there is one. -/
def handOn (q : Queue) : Queue :=
  match q.pending with
  | [] => { q with measures := { q.measures with gauges := some (0, q.inFlight) } }
  | a :: rest => q.dispatch (.release a.id) a rest { q.measures with gauges := some (rest.length, q.inFlight + 1) }

theorem tasks_conclude (id : Nat) (o : Outcome) (q : Queue) :
    (q.conclude id o).tasks = q.tasks.filter (·.id ≠ id) := filter_setStage q id (.released o)

theorem handOn_of_nil (hp : q.pending = []) :
    q.handOn = { q with measures := { q.measures with gauges := some (0, q.inFlight) } } := by
  simp only [handOn, hp]

theorem handOn_of_cons (hp : q.pending = a :: rest) : q.handOn =
    q.dispatch (.release a.id) a rest { q.measures with gauges := some (rest.length, q.inFlight + 1) } := by
  simp only [handOn, hp]

/-- A call ends, and its task goes through to the answer. -/
def completing (id : Nat) (o : Outcome) (q : Queue) : Queue := (q.finish id o).complete id o

theorem free_countFailure (id : Nat) (o : Outcome) (q : Queue) :
    (((q.finish id o).countEnd id o).countFailure id o).free id o = q.account id o := by
  have h₁ := setStage_setStage q id (.ended o) (.counted o)
  have h₂ := setStage_setStage q id (.counted o) (.recorded o)
  have h₃ := setStage_setStage q id (.recorded o) (.released o)
  rw [countFailure_eq]
  simp only [setStage, Queue.mk.injEq, true_and, and_true] at h₁ h₂ h₃
  simp only [finish, countEnd, free, account, setStage, h₁, h₂, h₃]

theorem completing_eq_reply (id : Nat) (o : Outcome) (q : Queue) : q.completing id o =
    (((q.account id o).claim (.release id)).launch (.release id)).reply id o := by
  rw [completing, complete, release, free_countFailure]

theorem launch_claim_of_nil (hr : q.isRunning = true) (hc : q.claimedBy launcher = []) (hp : q.pending = []) :
    (q.claim launcher).launch launcher = { q with measures := { q.measures with gauges := some (0, q.inFlight) } } := by
  have hq : q.claim launcher = { q with measures := { q.measures with gauges := some (0, q.inFlight) } } := by
    simp [claim, hr, hp]
  have hl : (q.claim launcher).claimedBy launcher = [] := by
    rw [hq]
    exact hc
  rw [launch, hl, List.foldl_nil, hq]

theorem launch_claim_of_cons (hd : Distinct q) (hr : q.isRunning = true) (hc : q.claimedBy launcher = [])
    (hp : q.pending = a :: rest) (hs : min (q.slots - q.inFlight) q.pending.length = 1) :
    (q.claim launcher).launch launcher =
      q.dispatch launcher a rest { q.measures with gauges := some (rest.length, q.inFlight + 1) } := by
  have hq : q.claim launcher = { q.grant launcher a rest with
      measures := { q.measures with gauges := some (rest.length, q.inFlight + 1) } } := by
    simp only [claim, hr, if_true, hs]
    simp [hp, grant]
  have hl : (q.claim launcher).claimedBy launcher = [a.id] := by
    rw [hq]
    refine (claimedBy_append q _ launcher).trans ?_
    rw [hc]
    simp [Task.id]
  have hne : ∀ t ∈ q.tasks, t.id ≠ a.id := fun t ht => (hd.pending_ne ht (by simp [hp])).symm
  rw [launch, hl, List.foldl_cons, List.foldl_nil, hq]
  exact spawn_grant hne rest _

theorem claimedBy_setStage (hc : q.claimedBy launcher = []) (id : Nat) {s : Stage} (hs : s ≠ .claimed launcher) :
    (q.setStage id s).claimedBy launcher = [] := by
  simp only [claimedBy, List.map_eq_nil_iff, List.filter_eq_nil_iff, decide_eq_true_iff] at hc ⊢
  intro t ht
  obtain ⟨-, hr⟩ | ⟨-, hq⟩ := of_mem_setStage ht
  · rwa [hr]
  · exact hc t hq

theorem reply_dispatch (ha : a.id ≠ id) (launcher : Launcher) (o : Outcome) (rest : List Admitted) (measures : Measures)
    (q : Queue) :
    (q.dispatch launcher a rest measures).reply id o = (q.reply id o).dispatch launcher a rest measures := by
  have hid : (⟨a, .spawned⟩ : Task).id = a.id := rfl
  have hstay : [(⟨a, .spawned⟩ : Task)].filter (fun t => decide (t.id ≠ id)) = [⟨a, .spawned⟩] := by
    simp [hid, ha]
  simp only [reply, removeTask, resolve, dispatch, List.filter_append, hstay]

theorem completing_eq (hs : Sound q) (hr : q.isRunning = true) (hst : q.stage? id = some .calling)
    (hc : q.claimedBy (.release id) = []) (o : Outcome) : q.completing id o = (q.conclude id o).handOn := by
  obtain ⟨t, ht, rfl, hcalling⟩ := exists_task_of_stage? hst
  have hca : (q.account t.id o).claimedBy (.release t.id) = [] := claimedBy_setStage hc t.id (by simp)
  have hda : Distinct (q.account t.id o) :=
    (hs.distinct.setStage _ _).of_sublist (List.Sublist.refl _) (Nat.le_refl _) (List.Sublist.refl _)
  rw [completing_eq_reply]
  cases hp : q.pending with
  | nil =>
    rw [launch_claim_of_nil (q := q.account t.id o) hr hca hp, handOn_of_nil (q := q.conclude t.id o) hp]
    rfl
  | cons a rest =>
    have hone : min ((q.account t.id o).slots - (q.account t.id o).inFlight) (q.account t.id o).pending.length = 1 := by
      have hfull := hs.tight.resolve_left (by simp [hp])
      have hpos := hs.balanced.inFlight_pos ht (by rw [hcalling]; rfl)
      have hle := hs.balanced.slots
      have hlen : q.pending.length = rest.length + 1 := by simp [hp]
      change min (q.slots - (q.inFlight - 1)) q.pending.length = 1
      omega
    rw [launch_claim_of_cons hda hr hca hp hone, reply_dispatch (hs.distinct.pending_ne ht (by simp [hp])),
      handOn_of_cons (q := q.conclude t.id o) hp]
    rfl

theorem of_mem_claim (h : t ∈ (q.claim launcher).tasks) : t ∈ q.tasks ∨ t.stage = .claimed launcher := by
  unfold claim at h
  split at h
  · obtain h | h := List.mem_append.mp h
    · exact .inl h
    · obtain ⟨a, -, rfl⟩ := List.mem_map.mp h
      exact .inr rfl
  · exact .inl h

def HandedBack (log : List Sign) (q : Queue) : Prop :=
  ∀ t ∈ q.tasks, ∀ id, t.stage = .claimed (.release id) → .freed id ∈ log

namespace HandedBack

theorem of_tasks (h : HandedBack log q) (ht : ∀ t ∈ r.tasks, (∃ l, t.stage = .claimed l) → t ∈ q.tasks)
    (more : List Sign) :
    HandedBack (log ++ more) r := fun t hr id hs =>
  List.mem_append_left _ (h t (ht t hr ⟨_, hs⟩) id hs)

theorem setStage {s : Stage} (h : HandedBack log q) (hr : r.tasks = (q.setStage id s).tasks)
    (hs : ∀ l, s ≠ .claimed l) (more : List Sign) : HandedBack (log ++ more) r := by
  refine h.of_tasks (fun t ht ⟨l, hl⟩ => ?_) more
  rw [hr] at ht
  obtain ⟨-, hst⟩ | ⟨-, hq⟩ := of_mem_setStage ht
  · exact absurd (hst.symm.trans hl) (hs l)
  · exact hq

theorem claim (h : HandedBack log q) (hl : ∀ id, launcher = .release id → .freed id ∈ log) :
    HandedBack log (q.claim launcher) := by
  intro t ht id hs
  obtain ht | ht := of_mem_claim ht
  · exact h t ht id hs
  · exact hl id (Stage.claimed.inj (ht.symm.trans hs))

theorem abandon {s : Stage} (h : HandedBack log q) (hs : ∀ l, s ≠ .claimed l) (more : List Sign) :
    HandedBack (log ++ more) (q.abandon id s) := h.setStage (r := q.abandon id s) rfl hs more

theorem vacate (h : HandedBack log q) (id : Nat) : HandedBack (log ++ [.freed id]) (q.vacate id) := by
  have hq : HandedBack (log ++ [.freed id]) (q.depart id) := h.of_tasks (fun t ht _ => (List.mem_filter.mp ht).1) _
  exact hq.claim fun i hi => by cases hi; simp

theorem of_acts {x : Action} (h : HandedBack log q) (ha : Acts q x r) : HandedBack (log ++ q.signs (.act x)) r := by
  cases ha with
  | draw | countRefusal | dropTicket | observe => exact h.of_tasks (fun t ht _ => ht) _
  | @submit id job =>
    have hq := h.of_tasks (r := q) (fun t ht _ => ht) (q.signs (.act (.submit id job)))
    unfold submitSection
    split
    · exact hq
    · exact claim (q := q.enter id job) hq nofun
  | spawn => exact h.setStage (s := .spawned) rfl (by simp) _
  | start => exact h.setStage (s := .calling) rfl (by simp) _
  | crash => exact h.setStage (s := .crashed) (congrArg Queue.tasks (setStage_setStage q _ .calling .crashed)) (by simp) _
  | vacate => exact h.vacate _
  | finish o => exact h.setStage (s := .ended o) rfl (by simp) _
  | @countEnd t o => exact h.setStage (s := .counted o) rfl (by simp) _
  | @countFailure t o =>
    rw [countFailure_eq]
    exact h.setStage (s := .recorded o) rfl (by simp) _
  | @release t o =>
    have hq : HandedBack (log ++ q.signs (.act (.release t.id))) (q.free t.id o) :=
      h.setStage (s := .released o) rfl (by simp) _
    exact hq.claim fun i hi => by cases hi; simp [signs]
  | reply => exact h.of_tasks (fun t ht _ => (List.mem_filter.mp ht).1) _

theorem of_step (h : HandedBack log q) (ha : attended q e) (hs : q.step? e = some r) :
    HandedBack (log ++ q.signs e) r := by
  have hq := h.of_tasks (r := q) (fun t ht _ => ht) (q.signs e)
  cases e with
  | act x =>
    obtain ⟨⟨s, y⟩, hact, rfl⟩ := Option.map_eq_some_iff.mp hs
    exact h.of_acts (acts_of_act? hact)
  | submitOutside job =>
    cases hs
    exact hq
  | poll id =>
    cases hs
    cases hr : (q.ticket? id).bind TicketState.response? <;> simp only [poll, hr] <;> exact hq
  | discard id =>
    simp only [step?, Option.ite_none_right_eq_some, Option.some.injEq] at hs
    obtain ⟨hi, rfl⟩ := hs
    obtain ⟨t, ht, hi⟩ := isIdle_iff.mp hi
    obtain ⟨s, hs, he⟩ := discard_eq ht hi
    rw [he]
    refine h.abandon (fun l hl => ?_) _
    subst hl
    cases hs.isLeaving
  | vacateOutside id => exact absurd rfl (ha id)
  | schedule x | stop | restart =>
    simp only [step?, Option.ite_none_right_eq_some, Option.ite_none_left_eq_some, Option.some.injEq] at hs
    obtain ⟨-, rfl⟩ := hs
    exact hq

end HandedBack

theorem Run.handedBack (h : Run attended (new limits) log q) : HandedBack log q := by
  induction h with
  | refl => exact nofun
  | step _ ha hs ih => exact ih.of_step ha hs

theorem Run.claimedBy_of_calling (h : Run attended (new limits) log q) (hs : q.stage? id = some .calling) :
    q.claimedBy (.release id) = [] := by
  simp only [claimedBy, List.map_eq_nil_iff, List.filter_eq_nil_iff, decide_eq_true_iff]
  intro u hu hc
  have ht : Told log q := h.moves.told (.new limits)
  obtain ⟨t, htm, rfl, hst⟩ := exists_task_of_stage? hs
  have hstory := ht.story_task htm
  rw [hst] at hstory
  have hm : Sign.freed t.id ∈ story t.admitted.id log := mem_story.mpr ⟨h.handedBack u hu t.id hc, rfl⟩
  rw [hstory] at hm
  simp [Stage.told] at hm

theorem Run.completing (outcome : Nat → Outcome) (hs : Sound q) (hr : q.isRunning = true) (hf : q.isFree = true)
    (hst : q.stage? id = some .calling) (hc : q.claimedBy (.release id) = []) :
    ∃ more, Run (draining outcome) q more (q.completing id (outcome id)) := by
  generalize ho : outcome id = o
  have h₁ : (q.finish id o).stage? id = some (.ended o) := stage?_setStage hst
  have h₂ : ((q.finish id o).countEnd id o).stage? id = some (.counted o) := stage?_setStage h₁
  have h₃ : (((q.finish id o).countEnd id o).countFailure id o).stage? id = some (.recorded o) := by
    rw [countFailure_eq]
    exact stage?_setStage h₂
  generalize hp : ((q.finish id o).countEnd id o).countFailure id o = p at h₃
  have hend : Run (draining outcome) q [.ended id o] (q.finish id o) :=
    .single (e := .act (.finish id o)) (by simp [draining, Event.drains, ho]) (by simp [step?, act?, hst])
  have hcount : Run (draining outcome) (q.finish id o) [] ((q.finish id o).countEnd id o) :=
    .single (e := .act (.countEnd id)) rfl (by simp [step?, act?, h₁])
  have hfailure : Run (draining outcome) ((q.finish id o).countEnd id o) [] p :=
    .single (e := .act (.countFailure id)) rfl (by simp [step?, act?, h₂, hp])
  have hcounted := (hend.trans hcount).trans hfailure
  have hrun := (hcounted.drain hs hr).running
  have hsound := (hcounted.drain hs hr).sound
  have hfree : p.isFree = true := by
    rw [← hp, countFailure_eq]
    exact hf
  have hrelease : Run (draining outcome) p [.freed id] (p.release id o) :=
    .single (e := .act (.release id)) rfl (by simp [step?, act?, h₃, hrun, hfree])
  have hclaimed : (p.free id o).claimedBy (.release id) = [] := by
    rw [← hp, free_countFailure]
    exact claimedBy_setStage hc id (by simp)
  obtain ⟨t, ht, hid, hrecorded⟩ := exists_task_of_stage? h₃
  have hd : Distinct (p.free id o) := hid ▸ Move.distinct (.free ht hrecorded) hsound.distinct
  obtain ⟨hh, -⟩ := handed_launch hd hrun hclaimed hsound.one_free
  have hreleased : (p.free id o).stage? id = some (.released o) := stage?_setStage h₃
  have hlaunch : Run (draining outcome) (p.release id o) [] ((p.release id o).launch (.release id)) := by
    refine run_of_play? (fun e he q => ?_) (play?_launch _ (hrelease.drain hsound hrun).running
      (hrelease.drain hsound hrun).sound.distinct)
    obtain ⟨-, -, rfl⟩ := List.mem_map.mp he
    rfl
  have hreply : ((p.release id o).launch (.release id)).step? (.act (.reply id)) = some (q.completing id o) := by
    have hstage : ((p.release id o).launch (.release id)).stage? id = some (.released o) := hh.stage? hreleased
    have hnone : ((p.release id o).launch (.release id)).claimedBy (.release id) = [] := hh.claimedBy hclaimed
    rw [Queue.completing, complete, hp]
    simp [step?, act?, hstage, hnone]
  exact ⟨_, ((hcounted.trans hrelease).trans hlaunch).trans (.single (e := .act (.reply id)) rfl hreply)⟩

end Turnstile.Queue
