import Turnstile.Proofs.Queue.Delivery
import Turnstile.Proofs.Queue.Launch

namespace Turnstile.Queue

variable {q r : Queue} {t : Task} {log : List Sign} {id i j : Nat} {launcher : Launcher} {s : Stage}

theorem not_sublist_swap {α : Type} {a b : α} {l : List α} (hn : l.Nodup) (h : [a, b].Sublist l) :
    ¬[b, a].Sublist l := by
  induction l with
  | nil => cases h
  | cons c l ih =>
    obtain ⟨hc, hn⟩ := List.nodup_cons.mp hn
    intro k
    cases h with
    | cons _ h =>
      cases k with
      | cons _ k => exact ih hn h k
      | cons_cons _ k => exact hc (h.subset (by simp))
    | cons_cons _ h =>
      cases k with
      | cons _ k => exact hc (k.subset (by simp))
      | cons_cons _ k => exact hc (h.subset (by simp))

theorem pair_sublist_append {α : Type} {a b : α} {l m : List α} (ha : a ∈ l) (hb : b ∈ m) : [a, b].Sublist (l ++ m) :=
  (List.singleton_sublist.mpr ha).append (List.singleton_sublist.mpr hb)

theorem pair_sublist_of_head? {α : Type} {a b : α} {l : List α} (h : l.head? = some a) (hb : b ∈ l) (hne : b ≠ a) :
    [a, b].Sublist l := by
  obtain ⟨rest, rfl⟩ := List.head?_eq_some_iff.mp h
  have hrest : b ∈ rest := (List.mem_cons.mp hb).resolve_left hne
  exact (List.singleton_sublist.mpr hrest).cons_cons a

theorem pair_sublist_of_append {α : Type} {a b : α} {l m : List α} (h : [a, b].Sublist (l ++ m)) (hb : b ∉ m) :
    [a, b].Sublist l := by
  induction l with
  | nil => exact absurd (h.subset (by simp)) hb
  | cons c l ih =>
    cases h with
    | cons _ h => exact (ih h).cons c
    | cons_cons _ h =>
      have hl : b ∈ l := (List.mem_append.mp (h.subset (by simp))).resolve_right hb
      exact (List.singleton_sublist.mpr hl).cons_cons a

theorem mem_claimedBy : id ∈ q.claimedBy launcher ↔ ∃ t ∈ q.tasks, t.id = id ∧ t.stage = .claimed launcher := by
  simp [claimedBy, and_assoc, and_comm]

theorem Distinct.ne_of_claimedBy {other : Launcher} (hd : Distinct q) (hi : i ∈ q.claimedBy launcher)
    (hj : j ∈ q.claimedBy other) (hne : launcher ≠ other) : i ≠ j := by
  rintro rfl
  obtain ⟨t, ht, rfl, hs⟩ := mem_claimedBy.mp hi
  obtain ⟨u, hu, hid, ho⟩ := mem_claimedBy.mp hj
  have hut := hd.task?_eq_some hu
  rw [hid, hd.task?_eq_some ht] at hut
  cases hut
  rw [hs] at ho
  exact hne (Stage.claimed.inj ho)

theorem Told.sublist_admissions (h : Told log q) (p : Task → Bool) :
    ((q.tasks.filter p).map Task.id).Sublist ((admissionsIn log).map Admitted.id) := by
  have hlive : ((q.tasks.filter p).map Task.id).Sublist (q.live.map Admitted.id) := by
    rw [live, List.map_append, List.map_map]
    exact (List.filter_sublist.map _).trans (List.sublist_append_left _ _)
  exact hlive.trans (h.order.map _)

def readyIds (q : Queue) : List Nat := (q.runtime.map fun r => r.ready.map Ready.id).getD []

theorem readyIds_enqueue (hr : q.isRunning = true) (id : Nat) (lane : Lane) :
    (q.enqueue id lane).readyIds = q.readyIds ++ [id] := by
  obtain ⟨x, hx⟩ := Option.isSome_iff_exists.mp hr
  simp [readyIds, enqueue, hx]

theorem readyIds_dequeue (id : Nat) (q : Queue) : (q.dequeue id).readyIds = q.readyIds.erase id := by
  cases hx : q.runtime with
  | none => simp [readyIds, dequeue, hx]
  | some x =>
    simp only [readyIds, dequeue, hx, Option.map_some, Option.getD_some, List.erase_eq_eraseP, List.eraseP_map]
    congr 2
    funext y
    exact Bool.beq_comm

def Awaits (q : Queue) (id : Nat) : Prop := ∃ t ∈ q.tasks, t.id = id ∧ t.stage = .spawned

theorem awaits_setStage : (q.setStage id s).Awaits i ↔
    (i ≠ id ∧ q.Awaits i) ∨ (i = id ∧ s = .spawned ∧ ∃ t ∈ q.tasks, t.id = id) := by
  simp only [Awaits, setStage, List.mem_map]
  constructor
  · rintro ⟨_, ⟨t, ht, rfl⟩, hi, hs⟩
    by_cases hid : t.id = id
    · rw [if_pos hid] at hi hs
      exact .inr ⟨hi.symm.trans hid, hs, t, ht, hid⟩
    · rw [if_neg hid] at hi hs
      exact .inl ⟨hi ▸ hid, t, ht, hi, hs⟩
  · rintro (⟨hi, t, ht, rfl, hs⟩ | ⟨rfl, rfl, t, ht, rfl⟩)
    · exact ⟨t, ⟨t, ht, if_neg hi⟩, rfl, hs⟩
    · exact ⟨_, ⟨t, ht, if_pos rfl⟩, rfl, rfl⟩

theorem awaits_removeTask : (q.removeTask id).Awaits i ↔ i ≠ id ∧ q.Awaits i := by
  simp only [Awaits, removeTask, List.mem_filter, decide_eq_true_eq]
  constructor
  · rintro ⟨t, ⟨ht, hid⟩, rfl, hs⟩
    exact ⟨hid, t, ht, rfl, hs⟩
  · rintro ⟨hid, t, ht, rfl, hs⟩
    exact ⟨t, ⟨ht, hid⟩, rfl, hs⟩

theorem Distinct.stage_of_awaits (hd : Distinct q) (ht : t ∈ q.tasks) (h : q.Awaits t.id) : t.stage = .spawned := by
  obtain ⟨u, hu, hid, hs⟩ := h
  have hut := hd.task?_eq_some hu
  rw [hid, hd.task?_eq_some ht] at hut
  cases hut
  exact hs

def starts (q : Queue) : List Nat := q.calls.map Admitted.id ++ q.readyIds

structure Lined (q : Queue) : Prop where
  nodup : q.readyIds.Nodup
  mem : ∀ id, id ∈ q.readyIds ↔ q.Awaits id

structure Unmoved (q r : Queue) : Prop where
  calls : r.calls = q.calls
  ready : r.readyIds = q.readyIds
  awaits : ∀ id, r.Awaits id ↔ q.Awaits id

namespace Unmoved

variable {p : Queue}

theorem refl (q : Queue) : Unmoved q q := ⟨rfl, rfl, fun _ => Iff.rfl⟩

theorem of_eq (hc : r.calls = q.calls) (hr : r.runtime = q.runtime) (ht : r.tasks = q.tasks) : Unmoved q r :=
  ⟨hc, by simp only [readyIds, hr], fun id => by simp only [Awaits, ht]⟩

theorem trans (h : Unmoved p q) (k : Unmoved q r) : Unmoved p r :=
  ⟨k.calls.trans h.calls, k.ready.trans h.ready, fun id => (k.awaits id).trans (h.awaits id)⟩

theorem starts (h : Unmoved q r) : r.starts = q.starts := by
  simp only [Queue.starts, h.calls, h.ready]

theorem lined (h : Unmoved q r) (hq : Lined q) : Lined r :=
  ⟨h.ready ▸ hq.nodup, fun id => by rw [h.ready, hq.mem, h.awaits]⟩

theorem claim (launcher : Launcher) (q : Queue) : Unmoved q (q.claim launcher) := by
  unfold Queue.claim
  split
  · refine ⟨rfl, rfl, fun id => ?_⟩
    simp only [Awaits, List.mem_append, List.mem_map]
    constructor
    · rintro ⟨t, ht | ⟨a, -, rfl⟩, hid, hs⟩
      · exact ⟨t, ht, hid, hs⟩
      · cases hs
    · rintro ⟨t, ht, hid, hs⟩
      exact ⟨t, .inl ht, hid, hs⟩
  · exact refl q

theorem submitSection (id : Nat) (job : Job) (q : Queue) : Unmoved q (q.submitSection id job).2 := by
  unfold Queue.submitSection
  split
  · exact of_eq rfl rfl rfl
  · have henter : Unmoved q (q.enter id job) := of_eq rfl rfl rfl
    exact henter.trans (claim _ _)

theorem setStage (hd : Distinct q) (ht : t ∈ q.tasks) (hs : t.stage ≠ .spawned) (hn : s ≠ .spawned) :
    Unmoved q (q.setStage t.id s) := by
  refine ⟨rfl, rfl, fun id => ?_⟩
  rw [awaits_setStage]
  constructor
  · rintro (⟨-, h⟩ | ⟨-, h, -⟩)
    · exact h
    · exact absurd h hn
  · intro h
    refine .inl ⟨?_, h⟩
    rintro rfl
    exact hs (hd.stage_of_awaits ht h)

theorem removeTask (hd : Distinct q) (ht : t ∈ q.tasks) (hs : t.stage ≠ .spawned) :
    Unmoved q (q.removeTask t.id) := by
  refine ⟨rfl, rfl, fun id => ?_⟩
  rw [awaits_removeTask]
  refine ⟨And.right, fun h => ⟨?_, h⟩⟩
  rintro rfl
  exact hs (hd.stage_of_awaits ht h)

end Unmoved

theorem Acts.unmoved {a : Action} (h : Acts q a r) (hd : Distinct q) (hs : ∀ launcher, a ≠ .spawn launcher)
    (hn : ∀ id, a ≠ .start id ∧ a ≠ .crash id) : Unmoved q r := by
  cases h with
  | spawn => exact absurd rfl (hs _)
  | start => exact absurd rfl (hn _).1
  | crash => exact absurd rfl (hn _).2
  | draw | countRefusal | dropTicket | observe => exact .of_eq rfl rfl rfl
  | submit job => exact .submitSection _ job q
  | finish o ht hst => exact .setStage hd ht (by simp [hst]) (by simp)
  | countEnd ht hst => exact (Unmoved.setStage hd ht (by simp [hst]) (by simp)).trans (.of_eq rfl rfl rfl)
  | @countFailure t o ht hst =>
    have hm : Unmoved q (q.setStage t.id (.recorded o)) := .setStage hd ht (by simp [hst]) (by simp)
    rw [countFailure_eq]
    exact hm.trans (.of_eq rfl rfl rfl)
  | @release t o hr ht hst =>
    have hm : Unmoved q (q.setStage t.id (.released o)) := .setStage hd ht (by simp [hst]) (by simp)
    have hf : Unmoved q (q.free t.id o) := hm.trans (.of_eq rfl rfl rfl)
    exact hf.trans (.claim _ _)
  | @reply t o ht hst =>
    have hm : Unmoved q (q.removeTask t.id) := .removeTask hd (task?_eq_some ht).1 (by simp [hst])
    exact hm.trans (.of_eq rfl rfl rfl)
  | @vacate t hr ht hl =>
    have hst : t.stage ≠ .spawned := fun hs => by simp [hs, Stage.isLeaving] at hl
    have hm : Unmoved q (q.removeTask t.id) := .removeTask hd (task?_eq_some ht).1 hst
    have hdepart : Unmoved q (q.depart t.id) := hm.trans (.of_eq rfl rfl rfl)
    exact hdepart.trans (.claim _ _)

/-- The executor starts tasks in the order in which they were spawned. -/
def inTurn (q : Queue) (e : Event) : Prop :=
  attended q e ∧ (∀ r, e ≠ .schedule r) ∧ ∀ id, e = .act (.start id) ∨ e = .act (.crash id) → q.readyIds.head? = some id

theorem inTurn_start (h : q.readyIds.head? = some id) : inTurn q (.act (.start id)) := by
  refine ⟨by simp [attended], by simp, fun i hi => ?_⟩
  obtain hi | hi := hi <;> cases hi
  exact h

/-- What a step does to the calls and the run queue: nothing; or the first of the tasks that a launcher has to spawn
comes last; or a task on the run queue goes away with the runtime. -/
inductive Shift (q : Queue) : Event → Queue → Prop where
  | kept {e : Event} {r : Queue} : r.starts = q.starts → Shift q e r
  | joined {launcher : Launcher} {ids : List Nat} {t : Task} {r : Queue} : q.claimedBy launcher = t.id :: ids →
      t ∈ q.tasks → t.stage = .claimed launcher → r.starts = q.starts ++ [t.id] → Shift q (.act (.spawn launcher)) r
  | left {t : Task} {r : Queue} : t ∈ q.tasks → t.stage = .spawned → r.calls = q.calls →
      r.readyIds = q.readyIds.erase t.id → Shift q (.discard t.id) r

namespace Lined

theorem new (limits : Config.Queue) : Lined (Queue.new limits) := by
  refine ⟨List.nodup_nil, fun id => ?_⟩
  simp [readyIds, Queue.new, Awaits]

theorem of_eq (h : Lined q) (hr : r.readyIds = q.readyIds) (ht : r.tasks = q.tasks) : Lined r :=
  ⟨hr ▸ h.nodup, fun id => by rw [hr, h.mem, Awaits, Awaits, ht]⟩

theorem spawn (h : Lined q) (hd : Distinct q) (hr : q.isRunning = true) (ht : t ∈ q.tasks)
    (hs : t.stage ≠ .spawned) (launcher : Launcher) : Lined (q.spawn launcher t.id) := by
  have hready : (q.spawn launcher t.id).readyIds = q.readyIds ++ [t.id] :=
    readyIds_enqueue (q := q.setStage t.id .spawned) hr _ _
  have hnew : t.id ∉ q.readyIds := fun hm => hs (hd.stage_of_awaits ht ((h.mem _).mp hm))
  have hawaits (i : Nat) : (q.spawn launcher t.id).Awaits i ↔ (q.setStage t.id .spawned).Awaits i := Iff.rfl
  constructor
  · rw [hready]
    exact (List.perm_append_singleton _ _).nodup_iff.mpr (List.nodup_cons.mpr ⟨hnew, h.nodup⟩)
  · intro i
    rw [hready, hawaits, awaits_setStage, List.mem_append, List.mem_singleton, h.mem]
    constructor
    · rintro (hi | rfl)
      · refine .inl ⟨?_, hi⟩
        rintro rfl
        exact hs (hd.stage_of_awaits ht hi)
      · exact .inr ⟨rfl, rfl, t, ht, rfl⟩
    · rintro (⟨-, hi⟩ | ⟨rfl, -, -⟩)
      · exact .inl hi
      · exact .inr rfl

theorem erase (h : Lined q) (hr : r.readyIds = q.readyIds.erase id)
    (ha : ∀ i, r.Awaits i ↔ i ≠ id ∧ q.Awaits i) : Lined r := by
  refine ⟨hr ▸ h.nodup.erase id, fun i => ?_⟩
  rw [hr, h.nodup.mem_erase_iff, ha, h.mem]

theorem start (h : Lined q) (t : Task) : Lined ((q.dequeue t.id).startTask t) := by
  refine h.erase (readyIds_dequeue t.id q) fun i => ?_
  have hawaits : ((q.dequeue t.id).startTask t).Awaits i ↔ (q.setStage t.id .calling).Awaits i := Iff.rfl
  rw [hawaits, awaits_setStage]
  simp

theorem abandon (h : Lined q) (id : Nat) (hs : s ≠ .spawned) : Lined (q.abandon id s) ∧
    (q.abandon id s).calls = q.calls ∧ (q.abandon id s).readyIds = q.readyIds.erase id := by
  have hready : (q.abandon id s).readyIds = q.readyIds.erase id := readyIds_dequeue id (q.setStage id s)
  refine ⟨h.erase hready fun i => ?_, rfl, hready⟩
  have hawaits : (q.abandon id s).Awaits i ↔ (q.setStage id s).Awaits i := Iff.rfl
  rw [hawaits, awaits_setStage]
  simp [hs]

end Lined

theorem starts_spawn (hr : q.isRunning = true) (launcher : Launcher) (id : Nat) :
    (q.spawn launcher id).starts = q.starts ++ [id] := by
  have hready : (q.spawn launcher id).readyIds = q.readyIds ++ [id] :=
    readyIds_enqueue (q := q.setStage id .spawned) hr _ _
  rw [starts, starts, hready, ← List.append_assoc]
  rfl

theorem starts_startTask (hf : q.readyIds.head? = some t.id) : ((q.dequeue t.id).startTask t).starts = q.starts := by
  obtain ⟨ids, hq⟩ := List.head?_eq_some_iff.mp hf
  have hready : ((q.dequeue t.id).startTask t).readyIds = ids := by
    have he : ((q.dequeue t.id).startTask t).readyIds = q.readyIds.erase t.id := readyIds_dequeue t.id q
    rw [he, hq, List.erase_cons_head]
  have hcalls : ((q.dequeue t.id).startTask t).calls = q.calls ++ [t.admitted] := rfl
  simp only [starts, hready, hcalls, hq, List.map_append, List.map_cons, List.map_nil, List.append_assoc,
    List.singleton_append]
  rfl

theorem shift_of_act {a : Action} {x : Option Snapshot} (ha : inTurn q (.act a)) (hd : Distinct q) (hq : Lined q)
    (h : q.act? a = some (r, x)) : Shift q (.act a) r ∧ Lined r := by
  by_cases hs : ∃ launcher, a = .spawn launcher
  · obtain ⟨launcher, rfl⟩ := hs
    simp only [act?] at h
    split at h
    · next id ids hc =>
      simp only [Option.ite_none_right_eq_some, Option.some.injEq, Prod.mk.injEq] at h
      obtain ⟨hr, rfl, -⟩ := h
      obtain ⟨t, ht, rfl, hst⟩ := claimedBy_head hc
      exact ⟨.joined hc ht hst (starts_spawn hr launcher _), hq.spawn hd hr ht (by simp [hst]) launcher⟩
    · cases h
  have hacts := acts_of_act? h
  by_cases hn : ∀ id, a ≠ .start id ∧ a ≠ .crash id
  · have hu := hacts.unmoved hd (fun launcher he => hs ⟨launcher, he⟩) hn
    exact ⟨.kept hu.starts, hu.lined hq⟩
  cases hacts with
  | start hf hst => exact ⟨.kept (starts_startTask (ha.2.2 _ (.inl rfl))), hq.start _⟩
  | @crash t hf hst =>
    -- The call starts in its turn, and the task that then goes away is no longer on the run queue.
    have hstart := starts_startTask (t := t) (ha.2.2 _ (.inr rfl))
    obtain ⟨hlined, hcalls, hready⟩ := (hq.start t).abandon t.id (s := .crashed) (by simp)
    have hgone : t.id ∉ ((q.dequeue t.id).startTask t).readyIds := by
      have he : ((q.dequeue t.id).startTask t).readyIds = q.readyIds.erase t.id := readyIds_dequeue t.id q
      rw [he]
      exact hq.nodup.not_mem_erase
    refine ⟨.kept ?_, hlined⟩
    rw [← hstart, starts, starts, hcalls, hready, List.erase_of_not_mem hgone]
  | observe => exact ⟨.kept rfl, hq.of_eq rfl rfl⟩
  | _ => simp at hn

theorem shift_of_step {e : Event} (ha : inTurn q e) (hd : Distinct q) (hq : Lined q) (h : q.step? e = some r) :
    Shift q e r ∧ Lined r := by
  cases e with
  | act a =>
    obtain ⟨⟨s, x⟩, hact, rfl⟩ := Option.map_eq_some_iff.mp h
    exact shift_of_act ha hd hq hact
  | submitOutside job =>
    cases h
    rw [outside_submit]
    exact ⟨.kept rfl, hq⟩
  | poll id =>
    cases h
    have hu : Unmoved q (q.poll id).2 := by
      cases hr : (q.ticket? id).bind TicketState.response? <;> simp only [poll, hr] <;> exact .of_eq rfl rfl rfl
    exact ⟨.kept hu.starts, hu.lined hq⟩
  | discard id =>
    simp only [step?, Option.ite_none_right_eq_some, Option.some.injEq] at h
    obtain ⟨hi, rfl⟩ := h
    obtain ⟨t, hf, hi⟩ := isIdle_iff.mp hi
    obtain ⟨u, hu, he⟩ := discard_eq hf hi
    have hne : u ≠ .spawned := fun hs => by simpa [hs, Stage.isLeaving] using hu.isLeaving
    obtain ⟨hlined, hcalls, hready⟩ := hq.abandon id hne
    obtain ⟨ht, rfl⟩ := task?_eq_some hf
    rw [he]
    refine ⟨?_, hlined⟩
    by_cases hs : t.stage = .spawned
    · exact .left ht hs hcalls hready
    · have hgone : t.id ∉ q.readyIds := fun hm => hs (hd.stage_of_awaits ht ((hq.mem _).mp hm))
      refine .kept ?_
      rw [starts, starts, hcalls, hready, List.erase_of_not_mem hgone]
  | vacateOutside id => exact absurd rfl (ha.1 id)
  | schedule x => exact absurd rfl (ha.2.1 x)
  | stop =>
    simp only [step?, Option.ite_none_right_eq_some, Option.some.injEq, Bool.and_eq_true, List.isEmpty_iff] at h
    obtain ⟨⟨⟨-, ht⟩, -⟩, rfl⟩ := h
    have hready : q.readyIds = [] := by
      refine List.eq_nil_iff_forall_not_mem.mpr fun id hm => ?_
      obtain ⟨t, hm, -⟩ := (hq.mem id).mp hm
      simp [ht] at hm
    have hr : readyIds { q with runtime := none } = q.readyIds := hready.symm
    exact ⟨.kept (by simp only [starts, hr]), hq.of_eq hr rfl⟩
  | restart =>
    simp only [step?, Option.ite_none_left_eq_some, Option.some.injEq] at h
    obtain ⟨hs, rfl⟩ := h
    have hnone : q.runtime = none := by simpa [isRunning] using hs
    have hr : readyIds { q with runtime := some {} } = q.readyIds := by simp [readyIds, hnone]
    exact ⟨.kept (by simp only [starts, hr]), hq.of_eq hr rfl⟩

structure Placed (log : List Sign) (q : Queue) : Prop where
  told : Told log q
  known : Known log
  calls : q.calls = callsIn log
  lined : Lined q

namespace Placed

theorem uncalled (h : Placed log q) (ht : t ∈ q.tasks) (hs : t.stage.isUnstarted = true) :
    t.id ∉ q.calls.map Admitted.id := by
  intro hm
  obtain ⟨a, ha, hid⟩ := List.mem_map.mp hm
  have hc : .called a ∈ story t.id log := mem_story.mpr ⟨mem_callsIn.mp (h.calls ▸ ha), congrArg some hid⟩
  rw [h.told.standing _ _ (.task ht)] at hc
  cases hst : t.stage with
  | claimed | spawned => simp [hst, Stage.told] at hc
  | _ => simp [hst, Stage.isUnstarted] at hs

theorem starts_notMem (h : Placed log q) (ht : t ∈ q.tasks) (hs : t.stage = .claimed launcher) : t.id ∉ q.starts := by
  intro hm
  obtain hm | hm := List.mem_append.mp hm
  · exact h.uncalled ht (by rw [hs]; rfl) hm
  · have hst := h.told.distinct.stage_of_awaits ht ((h.lined.mem _).mp hm)
    simp [hs] at hst

theorem not_lost (h : Placed log q) (ht : t ∈ q.tasks) (hs : t.stage = .claimed launcher) {how : Loss} :
    .lost t.id how ∉ log := by
  intro hm
  have hl : .lost t.id how ∈ story t.id log := mem_story.mpr ⟨hm, rfl⟩
  rw [h.told.standing _ _ (.task ht)] at hl
  simp [hs, Stage.told] at hl

theorem admitted_of_mem (h : Placed log q) (hm : id ∈ q.starts) : id ∈ (admissionsIn log).map Admitted.id := by
  obtain hm | hm := List.mem_append.mp hm
  · obtain ⟨a, ha, rfl⟩ := List.mem_map.mp hm
    have hc : .called a ∈ log := mem_callsIn.mp (h.calls ▸ ha)
    exact List.mem_map_of_mem (mem_admissionsIn.mpr (h.told.admitted_of_called h.known hc))
  · obtain ⟨t, ht, rfl, -⟩ := (h.lined.mem _).mp hm
    exact List.mem_map_of_mem (h.told.order.subset (mem_live_of_task ht))

theorem cases {a : Admitted} (h : Placed log q) (ha : .admitted a ∈ log) : a.id ∈ q.starts ∨ a ∈ q.pending ∨
    (∃ t ∈ q.tasks, t.admitted = a ∧ ∃ launcher, t.stage = .claimed launcher) ∨ .lost a.id .discarded ∈ log := by
  by_cases hc : a ∈ callsIn log
  · exact .inl (List.mem_append_left _ (List.mem_map_of_mem (h.calls ▸ hc)))
  obtain hp | hu | hs := (h.told.uncalled_iff ha).mp hc
  · exact .inr (.inl hp)
  · obtain ⟨t, ht, rfl⟩ := List.mem_map.mp hu
    obtain ⟨ht, hst⟩ := List.mem_filter.mp ht
    cases hstage : t.stage with
    | claimed launcher => exact .inr (.inr (.inl ⟨t, ht, rfl, launcher, hstage⟩))
    | spawned => exact .inl (List.mem_append_right _ ((h.lined.mem _).mpr ⟨t, ht, rfl, hstage⟩))
    | _ => simp [hstage, Stage.isUnstarted] at hst
  · have hl : .lost a.id .discarded ∈ story a.id log := hs.subset (by simp)
    exact .inr (.inr (.inr (mem_story.mp hl).1))

theorem joined {ids : List Nat} (h : Placed log q) (hc : q.claimedBy launcher = t.id :: ids) (ht : t ∈ q.tasks)
    (hi : [i, t.id].Sublist ((admissionsIn log).map Admitted.id)) : i ∈ q.starts ∨ .lost i .discarded ∈ log ∨
      ∃ other, i ∈ q.claimedBy other ∧ launcher ≠ other := by
  have hn : ¬[t.id, i].Sublist ((admissionsIn log).map Admitted.id) := not_sublist_swap h.told.nodup hi
  obtain ⟨a, ha, rfl⟩ := List.mem_map.mp (hi.subset (by simp : i ∈ [i, t.id]))
  have hmem : t.id ∈ (q.tasks.map Task.admitted).map Admitted.id := List.mem_map_of_mem (List.mem_map_of_mem ht)
  obtain hm | hp | ⟨u, hu, rfl, other, hs⟩ | hl := h.cases (mem_admissionsIn.mp ha)
  · exact .inl hm
  · have hlive : [t.id, a.id].Sublist (q.live.map Admitted.id) := by
      rw [live, List.map_append]
      exact pair_sublist_append hmem (List.mem_map_of_mem hp)
    exact absurd (hlive.trans (h.told.order.map _)) hn
  · have hclaimed : u.id ∈ q.claimedBy other := mem_claimedBy.mpr ⟨u, hu, rfl, hs⟩
    by_cases ho : launcher = other
    · subst ho
      have hne : u.id ≠ t.id := by
        have hpair : [u.id, t.id].Nodup := h.told.nodup.sublist hi
        simpa using hpair
      have hpair : [t.id, u.id].Sublist (q.claimedBy launcher) := pair_sublist_of_head? (by simp [hc]) hclaimed hne
      exact absurd (hpair.trans (h.told.sublist_admissions _)) hn
    · exact .inr (.inr ⟨other, hclaimed, ho⟩)
  · exact .inr (.inl hl)

end Placed

section

variable {allowed : Queue → Event → Prop} {limits : Config.Queue}

theorem Run.placed (hm : ∀ q e, allowed q e → inTurn q e) (h : Run allowed (new limits) log q) : Placed log q := by
  have hl : Lined q := by
    induction h with
    | refl => exact .new limits
    | step h ha hs ih => exact (shift_of_step (hm _ _ ha) (h.moves.distinct (distinct_new limits)) ih hs).2
  exact ⟨h.moves.told (.new limits), h.moves.known (.new limits) .nil, h.moves.calls, hl⟩

/-- On the way, `j` was spawned by its launcher while another launcher had yet to spawn `i`. -/
def PassedOver (allowed : Queue → Event → Prop) (limits : Config.Queue) (i j : Nat) (log : List Sign) (q : Queue) :
    Prop :=
  ∃ before after p r launcher other, Run allowed (new limits) before p ∧ allowed p (.act (.spawn launcher)) ∧
    p.step? (.act (.spawn launcher)) = some r ∧ Run allowed r after q ∧ log = before ++ after ∧
    (p.claimedBy launcher).head? = some j ∧ i ∈ p.claimedBy other ∧ launcher ≠ other

theorem PassedOver.step {e : Event} (h : PassedOver allowed limits i j log q) (ha : allowed q e)
    (hs : q.step? e = some r) : PassedOver allowed limits i j (log ++ q.signs e) r := by
  obtain ⟨before, after, p, s, launcher, other, hp, hl, hps, hrun, rfl, hrest⟩ := h
  exact ⟨before, _, p, s, launcher, other, hp, hl, hps, hrun.step ha hs, List.append_assoc _ _ _, hrest⟩

theorem Placed.left (h : Placed log q) (ht : t ∈ q.tasks) (hs : t.stage = .spawned) (hc : r.calls = q.calls)
    (hr : r.readyIds = q.readyIds.erase t.id) : r.starts = q.starts.erase t.id ∧ t.id ∉ r.starts := by
  have hcalls : t.id ∉ q.calls.map Admitted.id := h.uncalled ht (by rw [hs]; rfl)
  have hstarts : r.starts = q.starts.erase t.id := by
    simp only [starts, hc, hr, List.erase_append_right _ hcalls]
  refine ⟨hstarts, ?_⟩
  rw [starts, hc, hr, List.mem_append, not_or]
  exact ⟨hcalls, h.lined.nodup.not_mem_erase⟩

theorem Run.pair_sublist_starts (hm : ∀ q e, allowed q e → inTurn q e) (h : Run allowed (new limits) log q)
    (hi : [i, j].Sublist ((admissionsIn log).map Admitted.id)) (hj : j ∈ q.starts) :
    [i, j].Sublist q.starts ∨ (i ∉ q.starts ∧ .lost i .discarded ∈ log) ∨ PassedOver allowed limits i j log q := by
  induction h with
  | refl => cases hj
  | @step log q r e h ha hs ih =>
    have hq := h.placed hm
    have hr := (h.step ha hs).placed hm
    -- A job that had its place before was admitted before, and so was every job admitted earlier.
    have hold (hj : j ∈ q.starts) : [i, j].Sublist ((admissionsIn log).map Admitted.id) := by
      have hn := hr.told.nodup
      rw [admissionsIn_append, List.map_append] at hi hn
      exact pair_sublist_of_append hi ((List.nodup_append.mp hn).2.2 _ (hq.admitted_of_mem hj) _ · rfl)
    cases (shift_of_step (hm _ _ ha) hq.told.distinct hq.lined hs).1 with
    | kept he =>
      rw [he] at hj ⊢
      obtain hsub | ⟨hni, hl⟩ | hp := ih (hold hj) hj
      · exact .inl hsub
      · exact .inr (.inl ⟨hni, List.mem_append_left _ hl⟩)
      · exact .inr (.inr (hp.step ha hs))
    | @joined launcher ids t _ hc ht hst he =>
      have hsigns : log ++ q.signs (.act (.spawn launcher)) = log := List.append_nil log
      have hlost (hl : .lost i .discarded ∈ log) (hni : i ∉ q.starts) : i ∉ r.starts := by
        rw [he, List.mem_append, List.mem_singleton, not_or]
        exact ⟨hni, fun hit => hq.not_lost ht hst (hit ▸ hl)⟩
      rw [hsigns] at hi
      by_cases hjt : j = t.id
      · subst hjt
        obtain hmem | hl | ⟨other, ho, hne⟩ := hq.joined hc ht hi
        · exact .inl (he ▸ pair_sublist_append hmem List.mem_cons_self)
        · by_cases hni : i ∈ q.starts
          · exact .inl (he ▸ pair_sublist_append hni List.mem_cons_self)
          · exact .inr (.inl ⟨hlost hl hni, List.mem_append_left _ hl⟩)
        · have hhead : (q.claimedBy launcher).head? = some t.id := by simp [hc]
          exact .inr (.inr ⟨log, [], q, r, launcher, other, h, ha, hs, .refl, by rw [hsigns, List.append_nil], hhead,
            ho, hne⟩)
      · have hj : j ∈ q.starts := by
          rw [he, List.mem_append, List.mem_singleton] at hj
          exact hj.resolve_right hjt
        obtain hsub | ⟨hni, hl⟩ | hp := ih hi hj
        · exact .inl (he ▸ hsub.trans (List.sublist_append_left _ _))
        · exact .inr (.inl ⟨hlost hl hni, List.mem_append_left _ hl⟩)
        · exact .inr (.inr (hp.step ha hs))
    | @left t _ ht hst hcalls hready =>
      obtain ⟨he, hnt⟩ := hq.left ht hst hcalls hready
      have hj' : j ∈ q.starts := List.mem_of_mem_erase (he ▸ hj)
      by_cases hit : i = t.id
      · subst hit
        exact .inr (.inl ⟨hnt, List.mem_append_right _ List.mem_cons_self⟩)
      · obtain hsub | ⟨hni, hl⟩ | hp := ih (hold hj') hj'
        · have hpair : t.id ∉ [i, j] := by
            have hjt : t.id ≠ j := fun heq => hnt (heq ▸ hj)
            simp [Ne.symm hit, hjt]
          have hsub := hsub.erase t.id
          rw [List.erase_of_not_mem hpair, ← he] at hsub
          exact .inl hsub
        · exact .inr (.inl ⟨fun hi => hni (List.mem_of_mem_erase (he ▸ hi)), List.mem_append_left _ hl⟩)
        · exact .inr (.inr (hp.step ha hs))

theorem PassedOver.not_pair_sublist (hm : ∀ q e, allowed q e → inTurn q e) (h : PassedOver allowed limits i j log q) :
    ¬[i, j].Sublist q.starts := by
  obtain ⟨before, after, p, r, launcher, other, hp, hl, hs, hrun, rfl, hj, hi, hne⟩ := h
  have hbase := hp.placed hm
  obtain ⟨ids, hc⟩ := List.head?_eq_some_iff.mp hj
  -- Its place is after that of `j` from then on, and `j` does not come on the run queue a second time.
  suffices h : ¬[i, j].Sublist q.starts ∧ (j ∈ q.starts ∨ .lost j .discarded ∈ before ++ after) from h.1
  induction hrun with
  | refl =>
    simp only [step?, act?, hc, Option.map_eq_some_iff, Option.ite_none_right_eq_some, Option.some.injEq] at hs
    obtain ⟨_, ⟨hr, rfl⟩, rfl⟩ := hs
    rw [starts_spawn hr]
    refine ⟨fun hsub => ?_, .inl (by simp)⟩
    have hij : j ≠ i := hbase.told.distinct.ne_of_claimedBy (List.mem_of_mem_head? hj) hi hne
    obtain ⟨t, ht, rfl, hst⟩ := mem_claimedBy.mp hi
    have hmem : t.id ∈ p.starts := by simpa [hij.symm] using hsub.subset List.mem_cons_self
    exact hbase.starts_notMem ht hst hmem
  | @step after q' s e k ha hks ih =>
    have hrun : Run allowed (new limits) (before ++ after) q' := by simpa [signs] using (hp.step hl hs).trans k
    have hq := hrun.placed hm
    obtain ⟨hsub, hplace⟩ := ih
    rw [← List.append_assoc]
    cases (shift_of_step (hm _ _ ha) hq.told.distinct hq.lined hks).1 with
    | kept he =>
      rw [he]
      exact ⟨hsub, hplace.imp_right (List.mem_append_left _)⟩
    | @joined launcher ids t _ hc ht hst he =>
      have hjt : j ≠ t.id := by
        rintro rfl
        exact hplace.elim (hq.starts_notMem ht hst) (hq.not_lost ht hst)
      rw [he]
      refine ⟨fun hi => hsub (pair_sublist_of_append hi (by simpa using hjt)), ?_⟩
      exact hplace.imp (List.mem_append_left _) (List.mem_append_left _)
    | @left t _ ht hst hcalls hready =>
      obtain ⟨he, -⟩ := hq.left ht hst hcalls hready
      rw [he]
      refine ⟨fun hi => hsub (hi.trans List.erase_sublist), ?_⟩
      by_cases hjt : j = t.id
      · subst hjt
        exact .inr (List.mem_append_right _ List.mem_cons_self)
      · exact hplace.imp (List.mem_erase_of_ne hjt).mpr (List.mem_append_left _)

theorem Placed.pair_sublist_calls_iff {a b : Admitted} (h : Placed log q) (ha : .admitted a ∈ log) (hb : b ∈ q.calls) :
    [a, b].Sublist q.calls ↔ [a.id, b.id].Sublist q.starts := by
  constructor
  · intro hsub
    exact (hsub.map Admitted.id).trans (List.sublist_append_left _ _)
  · intro hsub
    have hready : b.id ∉ q.readyIds := by
      intro hm
      obtain ⟨t, ht, hid, hs⟩ := (h.lined.mem _).mp hm
      exact h.uncalled ht (by rw [hs]; rfl) (hid ▸ List.mem_map_of_mem hb)
    obtain ⟨calls, hcalls, he⟩ := List.sublist_map_iff.mp (pair_sublist_of_append hsub hready)
    obtain ⟨c, rest, rfl, hc, hrest⟩ := List.map_eq_cons_iff.mp he.symm
    obtain ⟨d, rfl, hd⟩ := List.map_eq_singleton_iff.mp hrest
    have hadmitted {x : Admitted} (hx : x ∈ [c, d]) : .admitted x ∈ log :=
      h.told.admitted_of_called h.known (mem_callsIn.mp (h.calls ▸ hcalls.subset hx))
    have hbc : .admitted b ∈ log := h.told.admitted_of_called h.known (mem_callsIn.mp (h.calls ▸ hb))
    rw [← h.told.eq_of_id_eq (hadmitted (by simp)) ha hc, ← h.told.eq_of_id_eq (hadmitted (by simp)) hbc hd]
    exact hcalls

theorem Run.pair_sublist_calls (hm : ∀ q e, allowed q e → inTurn q e) (h : Run allowed (new limits) log q)
    {a b : Admitted} (hi : [a, b].Sublist (admissionsIn log)) (hb : b ∈ q.calls) :
    [a, b].Sublist q.calls ∨ (a ∉ q.calls ∧ .lost a.id .discarded ∈ log) ∨
      PassedOver allowed limits a.id b.id log q := by
  have ha : .admitted a ∈ log := mem_admissionsIn.mp (hi.subset List.mem_cons_self)
  have hplace : b.id ∈ q.starts := List.mem_append_left _ (List.mem_map_of_mem hb)
  have hcalls := (h.placed hm).pair_sublist_calls_iff ha hb
  refine (h.pair_sublist_starts hm (hi.map _) hplace).imp hcalls.mpr (.imp_left ?_)
  rintro ⟨hn, hl⟩
  exact ⟨fun hc => hn (List.mem_append_left _ (List.mem_map_of_mem hc)), hl⟩

end

def claimedIds (q : Queue) : List Nat := (q.tasks.filter (·.stage matches .claimed _)).map Task.id

/-- Tasks are spawned in the order in which their jobs got their slots, as they are where slots are handed out and tasks
are spawned in one go. -/
def inOneGo (q : Queue) (e : Event) : Prop :=
  inTurn q e ∧ ∀ launcher, e = .act (.spawn launcher) → (q.claimedBy launcher).head? = q.claimedIds.head?

theorem inOneGo_spawn (h : (q.claimedBy launcher).head? = q.claimedIds.head?) :
    inOneGo q (.act (.spawn launcher)) := by
  refine ⟨by simp [inTurn, attended], fun l hl => ?_⟩
  cases hl
  exact h

theorem not_passedOver {limits : Config.Queue} (hi : [i, j].Sublist ((admissionsIn log).map Admitted.id))
    (hn : ((admissionsIn log).map Admitted.id).Nodup) : ¬PassedOver inOneGo limits i j log q := by
  rintro ⟨before, after, p, r, launcher, other, hp, hl, hs, hrun, rfl, hj, hio, hne⟩
  have ht : Told before p := hp.moves.told (.new limits)
  have hij : j ≠ i := ht.distinct.ne_of_claimedBy (List.mem_of_mem_head? hj) hio hne
  have hclaimed : i ∈ p.claimedIds := by
    obtain ⟨t, ht, rfl, hst⟩ := mem_claimedBy.mp hio
    exact List.mem_map_of_mem (List.mem_filter.mpr ⟨ht, by rw [hst]⟩)
  have hpair : [j, i].Sublist p.claimedIds :=
    pair_sublist_of_head? ((hl.2 launcher rfl).symm.trans hj) hclaimed hij.symm
  have hadmissions : ((admissionsIn before).map Admitted.id).Sublist
      ((admissionsIn (before ++ after)).map Admitted.id) := by
    rw [admissionsIn_append, List.map_append]
    exact List.sublist_append_left _ _
  exact not_sublist_swap hn hi ((hpair.trans (ht.sublist_admissions _)).trans hadmissions)

/-- With an executor that starts tasks in the order in which they were spawned, a call starts after those of all jobs
admitted earlier, but for jobs that were discarded before their turn, and exactly but for those that it was spawned past
while another launcher had yet to spawn them. Were tasks spawned in one go with the handing out of slots, none would be
passed over. -/
theorem called_in_order_unless_passed_over (limits : Config.Queue) :
    (∀ log q, Run inTurn (new limits) log q → ∀ a b, [a, b].Sublist (admissionsIn log) → b ∈ q.calls →
      (¬[a, b].Sublist q.calls ↔
        (a ∉ q.calls ∧ .lost a.id .discarded ∈ log) ∨ PassedOver inTurn limits a.id b.id log q)) ∧
    ∀ log q, Run inOneGo (new limits) log q → ∀ a b, [a, b].Sublist (admissionsIn log) → b ∈ q.calls →
      [a, b].Sublist q.calls ∨ (a ∉ q.calls ∧ .lost a.id .discarded ∈ log) := by
  constructor
  · intro log q h a b hi hb
    constructor
    · exact (h.pair_sublist_calls (fun _ _ ha => ha) hi hb).resolve_left
    · rintro (⟨hn, -⟩ | hp) hsub
      · exact hn (hsub.subset List.mem_cons_self)
      · have ha : .admitted a ∈ log := mem_admissionsIn.mp (hi.subset List.mem_cons_self)
        have hplaced := h.placed fun _ _ ha => ha
        exact hp.not_pair_sublist (fun _ _ ha => ha) ((hplaced.pair_sublist_calls_iff ha hb).mp hsub)
  · intro log q h a b hi hb
    have hn : ¬PassedOver inOneGo limits a.id b.id log q :=
      not_passedOver (hi.map Admitted.id) (h.moves.told (.new limits)).nodup
    exact (h.pair_sublist_calls (fun _ _ ha => ha.1) hi hb).imp_right (·.resolve_right hn)

def claimingTwice : List Event :=
  [.act .draw, .act .draw, .act (.submit 1 plainJob), .act (.submit 2 plainJob)]

theorem inOneGo_claimingTwice : ∀ e ∈ claimingTwice, ∀ q, inOneGo q e := by
  simp [claimingTwice, inOneGo, inTurn, attended]

theorem run_passing : ∃ log q, Run inTurn (new ⟨2, 2⟩) log q ∧
    log = [.admitted ⟨1, plainJob⟩, .admitted ⟨2, plainJob⟩, .called ⟨2, plainJob⟩] ∧ q.calls = [⟨2, plainJob⟩] := by
  have hclaims := (run_of_play? inOneGo_claimingTwice rfl : Run inOneGo (new ⟨2, 2⟩) _ _).mono fun _ _ ha => ha.1
  have hsecond := hclaims.step (e := .act (.spawn (.submission 2))) (by simp [inTurn, attended]) rfl
  have hfirst := hsecond.step (e := .act (.spawn (.submission 1))) (by simp [inTurn, attended]) rfl
  have hstart := hfirst.step (e := .act (.start 2)) (inTurn_start rfl) rfl
  exact ⟨_, _, hstart, rfl, rfl⟩

theorem run_waiting : ∃ log q, Run inOneGo (new ⟨2, 2⟩) log q ∧
    log = [.admitted ⟨1, plainJob⟩, .admitted ⟨2, plainJob⟩, .called ⟨1, plainJob⟩, .called ⟨2, plainJob⟩] ∧
    q.calls = [⟨1, plainJob⟩, ⟨2, plainJob⟩] := by
  have hclaims : Run inOneGo (new ⟨2, 2⟩) _ _ := run_of_play? inOneGo_claimingTwice rfl
  have hfirst := hclaims.step (e := .act (.spawn (.submission 1))) (inOneGo_spawn rfl) rfl
  have hsecond := hfirst.step (e := .act (.spawn (.submission 2))) (inOneGo_spawn rfl) rfl
  have hone := hsecond.step (e := .act (.start 1)) ⟨inTurn_start rfl, by simp⟩ rfl
  have htwo := hone.step (e := .act (.start 2)) ⟨inTurn_start rfl, by simp⟩ rfl
  exact ⟨_, _, htwo, rfl, rfl⟩

theorem called_in_order_unless_passed_over_early :
    (∃ log q, Run inTurn (new ⟨2, 2⟩) log q ∧ PassedOver inTurn ⟨2, 2⟩ 1 2 log q) ∧
    ∃ log q, Run inOneGo (new ⟨2, 2⟩) log q ∧ [⟨1, plainJob⟩, ⟨2, plainJob⟩].Sublist q.calls := by
  constructor
  · obtain ⟨log, q, h, hlog, hc⟩ := run_passing
    have hi : [⟨1, plainJob⟩, ⟨2, plainJob⟩].Sublist (admissionsIn log) := by simp [hlog, admissionsIn]
    have hb : ⟨2, plainJob⟩ ∈ q.calls := by simp [hc]
    have hn : ¬[⟨1, plainJob⟩, ⟨2, plainJob⟩].Sublist q.calls := fun hs => by simpa [hc] using hs.length_le
    obtain ⟨-, hl⟩ | hp := ((called_in_order_unless_passed_over ⟨2, 2⟩).1 log q h _ _ hi hb).mp hn
    · simp [hlog] at hl
    · exact ⟨log, q, h, hp⟩
  · obtain ⟨log, q, h, hlog, hc⟩ := run_waiting
    have hi : [⟨1, plainJob⟩, ⟨2, plainJob⟩].Sublist (admissionsIn log) := by simp [hlog, admissionsIn]
    have hb : ⟨2, plainJob⟩ ∈ q.calls := by simp [hc]
    obtain hsub | ⟨-, hl⟩ := (called_in_order_unless_passed_over ⟨2, 2⟩).2 log q h _ _ hi hb
    · exact ⟨log, q, h, hsub⟩
    · simp [hlog] at hl

/-- Tasks that start in the order in which they were spawned are not enough for calls to start in the order of
admission. -/
theorem called_out_of_order : ¬∀ limits log q, Run inTurn (new limits) log q → (∀ id how, .lost id how ∉ log) →
    ∀ a b, [a, b].Sublist (admissionsIn log) → b ∈ q.calls → a ∈ q.calls := by
  intro h
  obtain ⟨log, q, hrun, hlog, hc⟩ := run_passing
  have ha := h ⟨2, 2⟩ log q hrun (by simp [hlog]) ⟨1, plainJob⟩ ⟨2, plainJob⟩ (by simp [hlog, admissionsIn])
    (by simp [hc])
  simp [hc] at ha

end Turnstile.Queue
