import Mathlib
import Turnstile.Proofs.Queue.Conservation
import Turnstile.Proofs.Queue.Launch

namespace Turnstile.Queue

variable {p q r : Queue} {e : Event} {es more : List Event} {log : List Sign} {id : Nat} {a : Admitted} {t : Task}
  {s : Stage} {launcher : Launcher}

/-- The job that is brought one step nearer to its close. -/
def Event.closes? : Event → Option Nat
  | .act (.finish id _) | .act (.countEnd id) | .act (.countFailure id) | .act (.release id) | .act (.reply id) =>
    some id
  | _ => none

def closingsOf (id : Nat) (es : List Event) : List Event := es.filter (·.closes? = some id)

/-- The steps to the close of a job, in their order. -/
def closing (id : Nat) (o : Outcome) : List Event :=
  [.act (.finish id o), .act (.countEnd id), .act (.countFailure id), .act (.release id), .act (.reply id)]

def Stage.closings (id : Nat) : Stage → List Event
  | claimed _ | spawned | calling | discarded _ | crashed => []
  | ended o => (closing id o).take 1
  | counted o => (closing id o).take 2
  | recorded o => (closing id o).take 3
  | released o => (closing id o).take 4

theorem Leaves.closings_eq {u : Stage} {how : Loss} (h : Leaves u how s) (id : Nat) :
    s.closings id = u.closings id := by cases h <;> rfl

theorem mem_closingsOf : e ∈ closingsOf id es ↔ e ∈ es ∧ e.closes? = some id := by simp [closingsOf]

theorem closingsOf_append (id : Nat) (es more : List Event) :
    closingsOf id (es ++ more) = closingsOf id es ++ closingsOf id more := List.filter_append _ _

theorem closingsOf_snoc (id : Nat) (es : List Event) (e : Event) :
    closingsOf id (es ++ [e]) = closingsOf id es ++ if e.closes? = some id then [e] else [] := by
  by_cases he : e.closes? = some id <;> simp [closingsOf, he]

/-- The steps to its close that a number has behind it, as far as it is not done with. -/
inductive Reached (q : Queue) : Nat → List Event → Prop where
  | fresh {id : Nat} : id ∈ q.drawn ∨ q.nextId ≤ id → Reached q id []
  | pending {a : Admitted} : a ∈ q.pending → Reached q a.id []
  | task {t : Task} : t ∈ q.tasks → Reached q t.id (t.stage.closings t.id)

theorem Distinct.ne_of_fresh (hd : Distinct q) (hm : t ∈ q.tasks) (hid : id ∈ q.drawn ∨ q.nextId ≤ id) :
    id ≠ t.id := by
  have hl := mem_live_of_task hm
  rintro rfl
  obtain hid | hid := hid
  · exact hd.ne_of_mem_drawn hid hl rfl
  · exact Nat.not_lt.mpr hid (hd.lt _ (List.mem_append_right _ (List.mem_map_of_mem hl)))

theorem reached_setStage {l : List Event} (hd : Distinct q) (hm : t ∈ q.tasks)
    (h : Reached (q.setStage t.id s) id l) : id = t.id ∧ l = s.closings t.id ∨ id ≠ t.id ∧ Reached q id l := by
  obtain ⟨before, after, hst⟩ := hd.stands hm
  cases h with
  | fresh hid => exact .inr ⟨hd.ne_of_fresh hm hid, .fresh hid⟩
  | pending ha => exact .inr ⟨hd.pending_ne hm ha, .pending ha⟩
  | @task u hu =>
    rw [hst.setStage] at hu
    have hsub : (before ++ after).Sublist q.tasks := hst.tasks ▸ (List.sublist_cons_self t after).append_left before
    have hother (hu : u ∈ before ++ after) : u.id ≠ t.id ∧ Reached q u.id (u.stage.closings u.id) :=
      ⟨hst.ne u hu, .task (hsub.subset hu)⟩
    obtain hu | rfl | hu : u ∈ before ∨ u = { t with stage := s } ∨ u ∈ after := by simpa using hu
    · exact .inr (hother (List.mem_append_left _ hu))
    · exact .inl ⟨rfl, rfl⟩
    · exact .inr (hother (List.mem_append_right _ hu))

def Still (q r : Queue) : Prop := ∀ id l, Reached r id l → Reached q id l

namespace Still

theorem refl (q : Queue) : Still q q := fun _ _ h => h

theorem trans (h : Still p q) (k : Still q r) : Still p r := fun id l hr => h id l (k id l hr)

theorem of_subset (hd : r.drawn ⊆ q.drawn) (hn : r.nextId = q.nextId) (hp : r.pending ⊆ q.pending)
    (ht : r.tasks ⊆ q.tasks) : Still q r := by
  intro id l h
  cases h with
  | fresh hid => exact .fresh (hid.imp (@hd _) (hn ▸ ·))
  | pending ha => exact .pending (hp ha)
  | task hm => exact .task (ht hm)

theorem of_eq (hd : r.drawn = q.drawn) (hn : r.nextId = q.nextId) (hp : r.pending = q.pending)
    (ht : r.tasks = q.tasks) : Still q r :=
  of_subset (hd ▸ List.Subset.refl _) hn (hp ▸ List.Subset.refl _) (ht ▸ List.Subset.refl _)

theorem setStage (hd : Distinct q) (hm : t ∈ q.tasks) (hs : s.closings t.id = t.stage.closings t.id) :
    Still q (q.setStage t.id s) := by
  intro id l h
  obtain ⟨rfl, rfl⟩ | ⟨-, h⟩ := reached_setStage hd hm h
  · exact hs ▸ .task hm
  · exact h

theorem startTask (hd : Distinct q) (hm : t ∈ q.tasks) (hs : t.stage = .spawned) :
    Still q ((q.dequeue t.id).startTask t) := by
  have hset : Still q (q.setStage t.id .calling) := .setStage hd hm (by rw [hs]; rfl)
  exact hset.trans (.of_eq rfl rfl rfl rfl)

theorem claim (launcher : Launcher) (q : Queue) : Still q (q.claim launcher) := by
  unfold Queue.claim
  split
  · intro id l h
    cases h with
    | fresh hid => exact .fresh hid
    | pending ha => exact .pending (List.mem_of_mem_drop ha)
    | task hm =>
      obtain hm | hm := List.mem_append.mp hm
      · exact .task hm
      · obtain ⟨a, ha, rfl⟩ := List.mem_map.mp hm
        exact .pending (List.mem_of_mem_take ha)
  · exact .refl q

theorem abandon {how : Loss} (hd : Distinct q) (hm : t ∈ q.tasks) (hl : Leaves t.stage how s) :
    Still q (q.abandon t.id s) := by
  have hset : Still q (q.setStage t.id s) := .setStage hd hm (hl.closings_eq t.id)
  exact hset.trans (.of_eq rfl rfl rfl rfl)

theorem vacate (id : Nat) (q : Queue) : Still q (q.vacate id) := by
  have hgone : (q.removeTask id).tasks ⊆ q.tasks := fun u hu => (List.mem_filter.mp hu).1
  exact Still.trans (q := q.depart id) (of_subset (fun _ h => h) rfl (fun _ h => h) hgone) (claim _ _)

theorem submitSection (job : Job) (hid : id ∈ q.drawn) : Still q (q.submitSection id job).2 := by
  unfold Queue.submitSection
  split
  · exact of_subset List.erase_subset rfl (fun _ h => h) fun _ h => h
  · refine Still.trans (q := q.enter id job) ?_ (claim _ _)
    intro i l h
    cases h with
    | fresh hi => exact .fresh (hi.imp_left (List.mem_of_mem_erase ·))
    | pending ha =>
      obtain ha | ha := List.mem_append.mp ha
      · exact .pending ha
      · obtain rfl := List.mem_singleton.mp ha
        exact .fresh (.inl hid)
    | task hm => exact .task hm

theorem draw (q : Queue) : Still q q.draw := by
  intro id l h
  cases h with
  | fresh hid =>
    refine .fresh (hid.elim (fun hm => ?_) fun hle => .inr (Nat.le_of_succ_le hle))
    obtain hm | hm := List.mem_append.mp hm
    · exact .inl hm
    · exact .inr (Nat.le_of_eq (List.mem_singleton.mp hm).symm)
  | pending ha => exact .pending ha
  | task hm => exact .task hm

end Still

/-- A step brings one job nearer to its close, or none. -/
inductive Nears (q : Queue) (e : Event) (r : Queue) : Prop where
  | still : e.closes? = none → Still q r → Nears q e r
  | next {t : Task} {o : Outcome} {rest : List Event} : t ∈ q.tasks → e.closes? = some t.id →
      closing t.id o = t.stage.closings t.id ++ e :: rest →
      (∀ id l, Reached r id l → id = t.id ∧ l = t.stage.closings t.id ++ [e] ∨ id ≠ t.id ∧ Reached q id l) →
      Nears q e r

namespace Nears

theorem and_still (h : Nears q e p) (k : Still p r) : Nears q e r := by
  cases h with
  | still hc h => exact .still hc (h.trans k)
  | next hm hc hl hn => exact .next hm hc hl fun id l hr => hn id l (k id l hr)

theorem setStage {o : Outcome} {rest : List Event} (hd : Distinct q) (hm : t ∈ q.tasks) (hc : e.closes? = some t.id)
    (hl : closing t.id o = t.stage.closings t.id ++ e :: rest) (hs : s.closings t.id = t.stage.closings t.id ++ [e]) :
    Nears q e (q.setStage t.id s) :=
  .next hm hc hl fun _ _ h => hs ▸ reached_setStage hd hm h

end Nears

theorem Acts.still {a : Action} (h : Acts q a r) (hd : Distinct q) (hc : (Event.act a).closes? = none) :
    Still q r := by
  cases h with
  | draw => exact .draw q
  | submit job hr hid => exact .submitSection job hid
  | countRefusal | dropTicket | observe => exact .of_eq rfl rfl rfl rfl
  | @spawn t launcher hm hs =>
    have hset : Still q (q.setStage t.id .spawned) := .setStage hd hm (by rw [hs]; rfl)
    exact hset.trans (.of_eq rfl rfl rfl rfl)
  | start hm hs => exact .startTask hd (task?_eq_some hm).1 hs
  | @crash t hf hs =>
    have hstart := Still.startTask hd (task?_eq_some hf).1 hs
    have hm := (task?_eq_some (task?_startTask hf)).1
    have hdistinct : Distinct ((q.dequeue t.id).startTask t) :=
      (hd.setStage t.id .calling).of_sublist (List.Sublist.refl _) (Nat.le_refl _) (List.Sublist.refl _)
    exact hstart.trans (.abandon (t := { t with stage := .calling }) hdistinct hm .crashed)
  | vacate => exact .vacate _ q
  | finish | countEnd | countFailure | release | reply => cases hc

theorem nears_of_act? {a : Action} {x : Option Snapshot} (hd : Distinct q) (h : q.act? a = some (r, x)) :
    Nears q (.act a) r := by
  by_cases hc : (Event.act a).closes? = none
  · exact .still hc ((acts_of_act? h).still hd hc)
  cases a with
  | finish id o =>
    simp only [act?, Option.ite_none_right_eq_some, Option.some.injEq, Prod.mk.injEq] at h
    obtain ⟨hs, rfl, -⟩ := h
    obtain ⟨t, ht, rfl, hst⟩ := exists_task_of_stage? hs
    exact .setStage hd ht (o := o) rfl (by rw [hst]; rfl) (by rw [hst]; rfl)
  | countEnd id =>
    simp only [act?] at h
    split at h
    · next o hs =>
      cases h
      obtain ⟨t, ht, rfl, hst⟩ := exists_task_of_stage? hs
      have hn : Nears q (.act (.countEnd t.id)) (q.setStage t.id (.counted o)) :=
        .setStage hd ht (o := o) rfl (by rw [hst]; rfl) (by rw [hst]; rfl)
      exact hn.and_still (.of_eq rfl rfl rfl rfl)
    · cases h
  | countFailure id =>
    simp only [act?] at h
    split at h
    · next o hs =>
      cases h
      obtain ⟨t, ht, rfl, hst⟩ := exists_task_of_stage? hs
      have hn : Nears q (.act (.countFailure t.id)) (q.setStage t.id (.recorded o)) :=
        .setStage hd ht (o := o) rfl (by rw [hst]; rfl) (by rw [hst]; rfl)
      rw [countFailure_eq]
      exact hn.and_still (.of_eq rfl rfl rfl rfl)
    · cases h
  | release id =>
    simp only [act?] at h
    split at h
    · next o hs =>
      simp only [Option.ite_none_right_eq_some, Option.some.injEq, Prod.mk.injEq] at h
      obtain ⟨-, rfl, -⟩ := h
      obtain ⟨t, ht, rfl, hst⟩ := exists_task_of_stage? hs
      have hn : Nears q (.act (.release t.id)) (q.setStage t.id (.released o)) :=
        .setStage hd ht (o := o) rfl (by rw [hst]; rfl) (by rw [hst]; rfl)
      have hfree : Still (q.setStage t.id (.released o)) (q.free t.id o) := .of_eq rfl rfl rfl rfl
      exact hn.and_still (hfree.trans (.claim _ _))
    · cases h
  | reply id =>
    simp only [act?] at h
    split at h
    · next o hs =>
      simp only [Option.ite_none_right_eq_some, Option.some.injEq, Prod.mk.injEq] at h
      obtain ⟨-, rfl, -⟩ := h
      obtain ⟨t, ht, rfl, hst⟩ := exists_task_of_stage? hs
      have hlast : closing t.id o = t.stage.closings t.id ++ [.act (.reply t.id)] := by
        rw [hst]
        rfl
      refine .next ht rfl hlast fun id l hl => .inr ?_
      cases hl with
      | fresh hid => exact ⟨hd.ne_of_fresh ht hid, .fresh hid⟩
      | pending ha => exact ⟨hd.pending_ne ht ha, .pending ha⟩
      | task hm =>
        obtain ⟨hm, hne⟩ := List.mem_filter.mp hm
        exact ⟨of_decide_eq_true hne, .task hm⟩
    · cases h
  | _ => exact absurd rfl hc

theorem nears_of_step (hd : Distinct q) (h : q.step? e = some r) : Nears q e r := by
  cases e with
  | act a =>
    obtain ⟨⟨s, x⟩, ha, rfl⟩ := Option.map_eq_some_iff.mp h
    exact nears_of_act? hd ha
  | submitOutside job =>
    cases h
    exact .still rfl (.refl q)
  | poll id =>
    cases h
    refine .still rfl ?_
    unfold poll
    split
    · exact .of_eq rfl rfl rfl rfl
    · exact .refl q
  | discard id =>
    simp only [step?, Option.ite_none_right_eq_some, Option.some.injEq] at h
    obtain ⟨hi, rfl⟩ := h
    obtain ⟨t, hf, hi⟩ := isIdle_iff.mp hi
    obtain ⟨u, hu, he⟩ := discard_eq hf hi
    obtain ⟨hm, rfl⟩ := task?_eq_some hf
    rw [he]
    exact .still rfl (.abandon hd hm hu)
  | vacateOutside id =>
    simp only [step?, Option.ite_none_right_eq_some, Option.some.injEq] at h
    have hout : Still q { q with runtime := none } := .of_eq rfl rfl rfl rfl
    have hin (p : Queue) : Still p { p with runtime := q.runtime } := .of_eq rfl rfl rfl rfl
    exact .still rfl (h.2 ▸ (hout.trans (.vacate id _)).trans (hin _))
  | schedule | stop =>
    simp only [step?, Option.ite_none_right_eq_some, Option.some.injEq] at h
    exact .still rfl (h.2 ▸ .of_eq rfl rfl rfl rfl)
  | restart =>
    simp only [step?, Option.ite_none_left_eq_some, Option.some.injEq] at h
    exact .still rfl (h.2 ▸ .of_eq rfl rfl rfl rfl)

/-- The jobs for which a step was done, one after the other. -/
def doneIn (step : Nat → Action) (es : List Event) : List Nat :=
  es.filterMap fun e => e.closes?.filter fun id => e = .act (step id)

def fails (es : List Event) (id : Nat) : Bool :=
  es.any fun
    | .act (.finish i o) => i = id && o.isFailure
    | _ => false

def countedIn (es : List Event) : List Nat := doneIn .countEnd es

def failedIn (es : List Event) : List Nat := (doneIn .countFailure es).filter (fails es)

theorem fails_iff : fails es id = true ↔ ∃ o, .act (.finish id o) ∈ es ∧ o.isFailure = true := by
  simp only [fails, List.any_eq_true]
  constructor
  · rintro ⟨e, he, hf⟩
    split at hf
    · simp only [Bool.and_eq_true, decide_eq_true_eq] at hf
      obtain ⟨rfl, hf⟩ := hf
      exact ⟨_, he, hf⟩
    · cases hf
  · rintro ⟨o, he, hf⟩
    exact ⟨_, he, by simp [hf]⟩

theorem doneIn_append (step : Nat → Action) (es more : List Event) :
    doneIn step (es ++ more) = doneIn step es ++ doneIn step more := List.filterMap_append

section

variable {step : Nat → Action} (hstep : ∀ id, (Event.act (step id)).closes? = some id)
include hstep

theorem doneIn_singleton (id : Nat) : doneIn step [.act (step id)] = [id] := by
  simp [doneIn, hstep, Option.filter]

theorem mem_doneIn : id ∈ doneIn step es ↔ .act (step id) ∈ es := by
  simp only [doneIn, List.mem_filterMap, Option.filter_eq_some_iff, decide_eq_true_eq]
  constructor
  · rintro ⟨e, he, -, rfl⟩
    exact he
  · exact fun he => ⟨_, he, hstep id, rfl⟩

theorem nodup_doneIn (hb : ∀ id, ∃ o, closingsOf id es <+: closing id o) : (doneIn step es).Nodup := by
  have hcount (id : Nat) (es : List Event) : (doneIn step es).count id = (closingsOf id es).count (.act (step id)) := by
    induction es with
    | nil => rfl
    | cons e es ih =>
      have he : e :: es = [e] ++ es := rfl
      rw [he, doneIn_append, closingsOf_append, List.count_append, List.count_append, ih]
      congr 1
      by_cases hid : e = .act (step id)
      · simp [hid, doneIn_singleton hstep, closingsOf, hstep]
      · have hd : id ∉ doneIn step [e] := by simp [mem_doneIn hstep, Ne.symm hid]
        have hc : .act (step id) ∉ closingsOf id [e] := by simp [mem_closingsOf, Ne.symm hid]
        rw [List.count_eq_zero.mpr hd, List.count_eq_zero.mpr hc]
  refine List.nodup_iff_count_le_one.mpr fun id => ?_
  obtain ⟨o, ho⟩ := hb id
  have hone : (closing id o).Nodup := by simp [closing]
  rw [hcount]
  exact Nat.le_trans (ho.sublist.count_le _) (List.nodup_iff_count_le_one.mp hone _)

end

theorem closes?_countEnd (id : Nat) : (Event.act (.countEnd id)).closes? = some id := rfl

theorem closes?_countFailure (id : Nat) : (Event.act (.countFailure id)).closes? = some id := rfl

theorem Acts.totals {a : Action} (h : Acts q a r) (he : ∀ id, a ≠ .countEnd id) (hf : ∀ id, a ≠ .countFailure id) :
    r.totals.completed = q.totals.completed ∧ r.totals.failed = q.totals.failed := by
  cases h with
  | countEnd => exact absurd rfl (he _)
  | countFailure => exact absurd rfl (hf _)
  | @submit id job =>
    unfold submitSection
    split
    · exact ⟨rfl, rfl⟩
    · rw [accept, totals_claim]
      exact ⟨rfl, rfl⟩
  | vacate =>
    rw [totals_vacate]
    exact ⟨rfl, rfl⟩
  | release =>
    rw [Queue.release, totals_claim]
    exact ⟨rfl, rfl⟩
  | _ => exact ⟨rfl, rfl⟩

theorem totals_of_step (h : q.step? e = some r) (he : ∀ id, e ≠ .act (.countEnd id))
    (hf : ∀ id, e ≠ .act (.countFailure id)) :
    r.totals.completed = q.totals.completed ∧ r.totals.failed = q.totals.failed := by
  cases e with
  | act a =>
    obtain ⟨⟨s, x⟩, ha, rfl⟩ := Option.map_eq_some_iff.mp h
    exact (acts_of_act? ha).totals (fun id hid => he id (congrArg _ hid)) fun id hid => hf id (congrArg _ hid)
  | poll id =>
    cases h
    unfold poll
    split <;> exact ⟨rfl, rfl⟩
  | schedule =>
    simp only [step?, Option.ite_none_right_eq_some, Option.some.injEq] at h
    exact h.2 ▸ ⟨rfl, rfl⟩
  | _ =>
    rw [totals_of_isUncounted rfl h]
    exact ⟨rfl, rfl⟩

theorem of_countEnd (h : q.step? (.act (.countEnd id)) = some r) :
    r.totals.completed = q.totals.completed + 1 ∧ r.totals.failed = q.totals.failed := by
  simp only [step?, act?, Option.map_eq_some_iff] at h
  obtain ⟨x, h, rfl⟩ := h
  split at h
  · cases h
    exact ⟨rfl, rfl⟩
  · cases h

theorem of_countFailure (h : q.step? (.act (.countFailure id)) = some r) :
    r.totals.completed = q.totals.completed ∧ ∃ t ∈ q.tasks, t.id = id ∧ ∃ o, t.stage = .counted o ∧
      r.totals.failed = q.totals.failed + if o.isFailure then 1 else 0 := by
  simp only [step?, act?, Option.map_eq_some_iff] at h
  obtain ⟨x, h, rfl⟩ := h
  split at h
  · next o hs =>
    cases h
    obtain ⟨t, ht, hid, hst⟩ := exists_task_of_stage? hs
    rw [countFailure_eq]
    exact ⟨rfl, t, ht, hid, o, hst, rfl⟩
  · cases h

theorem of_answered {x : Http.Response} (h : .answered id x ∈ q.signs e) :
    ∃ t ∈ q.tasks, t.id = id ∧ ∃ o, t.stage = .released o ∧ e = .act (.reply id) ∧ x = o.answer := by
  have hsubmission (i : Nat) (job : Job) (x : Except Rejection Nat) (y : Http.Response) :
      .answered id y ≠ Sign.ofSubmission i job x := by
    unfold Sign.ofSubmission
    split <;> exact Sign.noConfusion
  cases e with
  | act a =>
    cases a with
    | reply i =>
      simp only [signs] at h
      split at h
      · next o hs =>
        obtain ⟨t, ht, hid, hst⟩ := exists_task_of_stage? hs
        cases List.mem_singleton.mp h
        exact ⟨t, ht, hid, o, hst, rfl, rfl⟩
      · cases h
    | submit i job => exact absurd (List.mem_singleton.mp h) (hsubmission _ _ _ _)
    | _ => simp [signs, callSigns] at h
  | submitOutside job => exact absurd (List.mem_singleton.mp h) (hsubmission _ _ _ _)
  | _ => simp [signs] at h

/-- What the steps so far have to do with the queue as it is. -/
structure Closings (es : List Event) (log : List Sign) (q : Queue) : Prop where
  reached : ∀ id l, Reached q id l → closingsOf id es = l
  begun : ∀ id, ∃ o, closingsOf id es <+: closing id o
  answered : ∀ id x, .answered id x ∈ log → ∃ o, x = o.answer ∧ closingsOf id es = closing id o
  completed : q.totals.completed = (countedIn es).length
  failed : q.totals.failed = (failedIn es).length

theorem fails_snoc (he : ∀ o, e ≠ .act (.finish id o)) : fails (es ++ [e]) id = fails es id := by
  rw [Bool.eq_iff_iff, fails_iff, fails_iff]
  refine exists_congr fun o => and_congr_left fun _ => ?_
  rw [List.mem_append, List.mem_singleton]
  exact or_iff_left fun h => he o h.symm

theorem doneIn_snoc_of_ne {step : Nat → Action} (he : ∀ id, e ≠ .act (step id)) :
    doneIn step (es ++ [e]) = doneIn step es := by
  rw [doneIn_append]
  have hn : doneIn step [e] = [] := by
    cases hc : e.closes? with
    | none => simp [doneIn, hc]
    | some id => simp [doneIn, hc, he]
  rw [hn, List.append_nil]

namespace Closings

theorem new (limits : Config.Queue) : Closings [] [] (Queue.new limits) where
  reached id l h := by
    cases h with
    | fresh => rfl
    | pending h | task h => cases h
  begun id := ⟨.panic, List.nil_prefix⟩
  answered _ _ h := nomatch h
  completed := rfl
  failed := rfl

theorem failed_step (h : Closings es log q) (hs : q.step? e = some r) :
    r.totals.failed = (failedIn (es ++ [e])).length := by
  by_cases hf : ∃ id, e = .act (.countFailure id)
  · obtain ⟨_, rfl⟩ := hf
    obtain ⟨-, t, ht, rfl, o, hst, hr⟩ := of_countFailure hs
    have hc : closingsOf t.id es = [.act (.finish t.id o), .act (.countEnd t.id)] := by
      rw [h.reached _ _ (.task ht), hst]
      rfl
    have hfails : fails es t.id = o.isFailure := by
      have hiff : fails es t.id = true ↔ o.isFailure = true := by
        rw [fails_iff]
        constructor
        · rintro ⟨o', hm, hf⟩
          have hm : .act (.finish t.id o') ∈ closingsOf t.id es := mem_closingsOf.mpr ⟨hm, rfl⟩
          obtain rfl : o' = o := by simpa [hc] using hm
          exact hf
        · intro hf
          have hm : .act (.finish t.id o) ∈ closingsOf t.id es := by simp [hc]
          exact ⟨o, (mem_closingsOf.mp hm).1, hf⟩
      exact Bool.eq_iff_iff.mpr hiff
    have hsame : fails (es ++ [.act (.countFailure t.id)]) = fails es := funext fun id => fails_snoc (by simp)
    rw [hr, h.failed, failedIn, failedIn, hsame, doneIn_append, doneIn_singleton closes?_countFailure,
      List.filter_append, List.length_append]
    cases ho : o.isFailure <;> simp [hfails, ho]
  · rw [not_exists] at hf
    have hr : r.totals.failed = q.totals.failed := by
      by_cases he : ∃ id, e = .act (.countEnd id)
      · obtain ⟨id, rfl⟩ := he
        exact (of_countEnd hs).2
      · exact (totals_of_step hs (not_exists.mp he) hf).2
    rw [hr, h.failed, failedIn, failedIn, doneIn_snoc_of_ne hf]
    congr 1
    refine List.filter_congr fun id hid => (fails_snoc ?_).symm
    -- The call of a job whose failure is counted has ended before.
    rintro o rfl
    have hm : .act (.countFailure id) ∈ closingsOf id es :=
      mem_closingsOf.mpr ⟨(mem_doneIn closes?_countFailure).mp hid, rfl⟩
    simp only [step?, act?, Option.map_eq_some_iff, Option.ite_none_right_eq_some] at hs
    obtain ⟨-, ⟨hstage, -⟩, -⟩ := hs
    obtain ⟨t, ht, rfl, hcalling⟩ := exists_task_of_stage? hstage
    rw [h.reached _ _ (.task ht), hcalling] at hm
    cases hm

theorem completed_step (h : Closings es log q) (hs : q.step? e = some r) :
    r.totals.completed = (countedIn (es ++ [e])).length := by
  by_cases he : ∃ id, e = .act (.countEnd id)
  · obtain ⟨id, rfl⟩ := he
    rw [(of_countEnd hs).1, h.completed, countedIn, countedIn, doneIn_append, doneIn_singleton closes?_countEnd]
    simp
  · rw [not_exists] at he
    have hr : r.totals.completed = q.totals.completed := by
      by_cases hf : ∃ id, e = .act (.countFailure id)
      · obtain ⟨id, rfl⟩ := hf
        exact (of_countFailure hs).1
      · exact (totals_of_step hs he (not_exists.mp hf)).1
    rw [hr, h.completed, countedIn, countedIn, doneIn_snoc_of_ne he]

theorem step (h : Closings es log q) (ht : Told log q) (hs : q.step? e = some r) :
    Closings (es ++ [e]) (log ++ q.signs e) r := by
  have hn := nears_of_step ht.distinct hs
  constructor
  case completed => exact h.completed_step hs
  case failed => exact h.failed_step hs
  case reached =>
    intro id l hr
    rw [closingsOf_snoc]
    cases hn with
    | still hc hstill => simp [hc, h.reached id l (hstill id l hr)]
    | next hm hc hl hnext =>
      obtain ⟨rfl, rfl⟩ | ⟨hne, hq⟩ := hnext id l hr
      · rw [hc, if_pos rfl, h.reached _ _ (.task hm)]
      · rw [hc, if_neg fun he => hne (Option.some.inj he).symm, h.reached id l hq, List.append_nil]
  case begun =>
    intro id
    rw [closingsOf_snoc]
    cases hn with
    | still hc => simpa [hc] using h.begun id
    | @next t o rest hm hc hl hnext =>
      by_cases hid : t.id = id
      · subst hid
        rw [hc, if_pos rfl, h.reached _ _ (.task hm)]
        exact ⟨o, rest, by simp [hl]⟩
      · simpa [hc, hid] using h.begun id
  case answered =>
    intro id x hx
    rw [closingsOf_snoc]
    obtain hx | hx := List.mem_append.mp hx
    · obtain ⟨o, rfl, ho⟩ := h.answered id x hx
      -- Nothing is left to do for a job that is answered.
      have hne : e.closes? ≠ some id := by
        cases hn with
        | still hc => simp [hc]
        | @next t o rest hm hc hl hnext =>
          rw [hc]
          rintro he
          obtain rfl := Option.some.inj he
          have htold := ht.story_task hm
          have hmem : Sign.answered t.id _ ∈ story t.admitted.id log := mem_story.mpr ⟨hx, rfl⟩
          rw [htold] at hmem
          exact t.stage.answered_notMem_told _ _ _ hmem
      exact ⟨o, rfl, by rw [if_neg hne, List.append_nil, ho]⟩
    · obtain ⟨t, hm, rfl, o, hst, rfl, rfl⟩ := of_answered hx
      have hc : (Event.act (.reply t.id)).closes? = some t.id := rfl
      refine ⟨o, rfl, ?_⟩
      rw [h.reached _ _ (.task hm), hst, if_pos hc]
      rfl

end Closings

theorem invariant_of_play? {P : List Event → List Sign → Queue → Prop}
    (hP : ∀ es log q e r, P es log q → q.step? e = some r → P (es ++ [e]) (log ++ q.signs e) r) {signs : List Sign}
    (h : q.play? more = some (signs, r)) (hq : P es log q) : P (es ++ more) (log ++ signs) r := by
  induction more generalizing es log q signs with
  | nil =>
    cases h
    simpa using hq
  | cons e more ih =>
    simp only [play?, Option.bind_eq_bind, Option.bind_eq_some_iff, Option.some.injEq, Prod.mk.injEq] at h
    obtain ⟨p, hp, ⟨rest, u⟩, hu, rfl, rfl⟩ := h
    simpa using ih hu (hP _ _ _ _ _ hq hp)

theorem moves_of_play? {signs : List Sign} (h : q.play? es = some (signs, r)) : Moves q signs r := by
  have hrun : Run (fun _ _ => True) q signs r := run_of_play? (fun _ _ _ => trivial) h
  exact hrun.moves

theorem exists_play?_of_append {signs : List Sign} (h : q.play? (es ++ more) = some (signs, r)) :
    ∃ first p rest, q.play? es = some (first, p) ∧ p.play? more = some (rest, r) ∧ signs = first ++ rest := by
  induction es generalizing q signs with
  | nil => exact ⟨[], q, signs, rfl, h, rfl⟩
  | cons e es ih =>
    simp only [List.cons_append, play?, Option.bind_eq_bind, Option.bind_eq_some_iff, Option.some.injEq,
      Prod.mk.injEq] at h
    obtain ⟨u, hu, ⟨later, v⟩, hv, rfl, rfl⟩ := h
    obtain ⟨first, p, rest, hfirst, hrest, rfl⟩ := ih hv
    exact ⟨q.signs e ++ first, p, rest, by simp [play?, hu, hfirst], hrest, by simp⟩

theorem Closings.play? {signs : List Sign} (h : Closings es log q) (ht : Told log q)
    (hp : q.play? more = some (signs, r)) : Closings (es ++ more) (log ++ signs) r := by
  have hstep : ∀ es log q e r, Closings es log q ∧ Told log q → q.step? e = some r →
      Closings (es ++ [e]) (log ++ q.signs e) r ∧ Told (log ++ q.signs e) r :=
    fun _ _ _ _ _ hq hs => ⟨hq.1.step hq.2 hs, (moves_of_step hs).told hq.2⟩
  exact (invariant_of_play? hstep hp ⟨h, ht⟩).1

theorem exists_split_of_mem (h : q.play? es = some (log, r)) (he : e ∈ es) :
    ∃ before after first p s rest, es = before ++ e :: after ∧ q.play? before = some (first, p) ∧
      p.step? e = some s ∧ s.play? after = some (rest, r) ∧ log = first ++ (p.signs e ++ rest) := by
  obtain ⟨before, after, rfl⟩ := List.append_of_mem he
  obtain ⟨first, p, signs, hfirst, hrest, rfl⟩ := exists_play?_of_append h
  simp only [play?, Option.bind_eq_bind, Option.bind_eq_some_iff, Option.some.injEq, Prod.mk.injEq] at hrest
  obtain ⟨s, hs, ⟨rest, u⟩, hlast, rfl, rfl⟩ := hrest
  exact ⟨before, after, first, p, s, rest, rfl, hfirst, hs, hlast, rfl⟩

theorem ended_of_finish (h : q.play? es = some (log, r)) (hf : .act (.finish id o) ∈ es) : .ended id o ∈ log := by
  obtain ⟨before, after, first, p, s, rest, -, -, -, -, rfl⟩ := exists_split_of_mem h hf
  simp [signs]

end Turnstile.Queue
