import Turnstile.Proofs.Queue.Roster

namespace Turnstile.Queue

variable {q r : Queue} {t : Task} {log more : List Sign} {id : Nat}

/-- The job that a sign tells something of. What a caller does with an answer is not part of a story. -/
def Sign.subject? : Sign → Option Nat
  | admitted a | called a => some a.id
  | refused id _ _ | ended id _ | freed id | answered id _ | lost id _ => some id
  | noRuntime | taken _ _ | dropped _ => none

def story (id : Nat) (log : List Sign) : List Sign := log.filter (·.subject? = some id)

theorem mem_story {s : Sign} : s ∈ story id log ↔ s ∈ log ∧ s.subject? = some id := by
  simp [story]

theorem story_append_of_ne (h : ∀ s ∈ more, s.subject? ≠ some id) : story id (log ++ more) = story id log := by
  have hm : story id more = [] := List.filter_eq_nil_iff.mpr fun s hs => by simpa using h s hs
  simp only [story, List.filter_append] at hm ⊢
  rw [hm, List.append_nil]

theorem story_append_of_eq (h : ∀ s ∈ more, s.subject? = some id) : story id (log ++ more) = story id log ++ more := by
  have hm : story id more = more := List.filter_eq_self.mpr fun s hs => by simpa using h s hs
  simp only [story, List.filter_append] at hm ⊢
  rw [hm]

/-- The jobs that were admitted, in the order of their admission. -/
def admissionsIn (log : List Sign) : List Admitted :=
  log.filterMap fun | .admitted a => some a | _ => none

theorem mem_admissionsIn {a : Admitted} : a ∈ admissionsIn log ↔ .admitted a ∈ log := by
  simp only [admissionsIn, List.mem_filterMap]
  constructor
  · rintro ⟨s, hs, h⟩
    cases s <;> simp_all
  · exact fun h => ⟨_, h, rfl⟩

theorem admissionsIn_append : admissionsIn (log ++ more) = admissionsIn log ++ admissionsIn more :=
  List.filterMap_append

def Stage.told (a : Admitted) : Stage → List Sign
  | claimed _ | spawned => [.admitted a]
  | calling => [.admitted a, .called a]
  | ended o | counted o | recorded o => [.admitted a, .called a, .ended a.id o]
  | released o => [.admitted a, .called a, .ended a.id o, .freed a.id]
  | discarded false => [.admitted a, .lost a.id .discarded]
  | discarded true => [.admitted a, .called a, .lost a.id .discarded]
  | crashed => [.admitted a, .called a, .lost a.id .crashed]

theorem Stage.answered_notMem_told (s : Stage) (a : Admitted) (i : Nat) (x : Http.Response) :
    .answered i x ∉ s.told a := by
  cases s with
  | discarded called => cases called <;> simp [told]
  | _ => simp [told]

/-- The stories of jobs that are done with. -/
inductive Over (a : Admitted) : List Sign → Prop where
  | answered (o : Outcome) : Over a ((Stage.released o).told a ++ [.answered a.id o.answer])
  | lost (s : Stage) : s.isLeaving = true → Over a (s.told a ++ [.freed a.id])

theorem Leaves.told {s u : Stage} {how : Loss} (h : Leaves s how u) (a : Admitted) :
    u.told a = s.told a ++ [.lost a.id how] := by
  cases h <;> rfl

/-- Where a number stands in a queue, and what that tells of it. -/
inductive Standing (q : Queue) : Nat → List Sign → Prop where
  | fresh {id : Nat} : id ∈ q.drawn ∨ q.nextId ≤ id → Standing q id []
  | pending {a : Admitted} : a ∈ q.pending → Standing q a.id [.admitted a]
  | task {t : Task} : t ∈ q.tasks → Standing q t.id (t.stage.told t.admitted)

/-- Everything that was seen of a job is told by where it stands now. -/
structure Told (log : List Sign) (q : Queue) : Prop where
  distinct : Distinct q
  standing : ∀ id told, Standing q id told → story id log = told
  closed : ∀ a, .admitted a ∈ log → a ∈ q.live ∨ Over a (story a.id log)
  nodup : ((admissionsIn log).map Admitted.id).Nodup
  order : q.live.Sublist (admissionsIn log)

namespace Told

theorem story_task (h : Told log q) (ht : t ∈ q.tasks) : story t.admitted.id log = t.stage.told t.admitted :=
  h.standing _ _ (.task ht)

theorem story_pending {a : Admitted} (h : Told log q) (ha : a ∈ q.pending) : story a.id log = [.admitted a] :=
  h.standing _ _ (.pending ha)

theorem story_fresh (h : Told log q) (hid : id ∈ q.drawn ∨ q.nextId ≤ id) : story id log = [] :=
  h.standing _ _ (.fresh hid)

theorem mem_live (h : Told log q) {a : Admitted} (ha : a ∈ q.live) : .admitted a ∈ log :=
  mem_admissionsIn.mp (h.order.subset ha)

theorem ne_of_fresh {a : Admitted} (h : Told log q) (ha : .admitted a ∈ log)
    (hid : id ∈ q.drawn ∨ q.nextId ≤ id) : a.id ≠ id := by
  rintro rfl
  have hm : Sign.admitted a ∈ story a.id log := mem_story.mpr ⟨ha, rfl⟩
  rw [h.story_fresh hid] at hm
  cases hm

theorem new (limits : Config.Queue) : Told [] (Queue.new limits) where
  distinct := distinct_new limits
  standing id told h := by
    cases h with
    | fresh => rfl
    | pending h | task h => cases h
  closed _ h := nomatch h
  nodup := List.nodup_nil
  order := List.Sublist.refl _

theorem eq_of_id_eq {a b : Admitted} (h : Told log q) (ha : .admitted a ∈ log) (hb : .admitted b ∈ log)
    (hid : a.id = b.id) : a = b := by
  have hf := find?_of_nodup h.nodup (mem_admissionsIn.mpr ha)
  rw [hid, find?_of_nodup h.nodup (mem_admissionsIn.mpr hb)] at hf
  exact (Option.some.inj hf).symm

theorem cases {a : Admitted} (h : Told log q) (ha : .admitted a ∈ log) :
    (a ∈ q.pending ∧ story a.id log = [.admitted a]) ∨
      (∃ t ∈ q.tasks, t.admitted = a ∧ story a.id log = t.stage.told a) ∨ Over a (story a.id log) := by
  obtain hl | ho := h.closed a ha
  · obtain hl | hl := List.mem_append.mp hl
    · obtain ⟨t, ht, rfl⟩ := List.mem_map.mp hl
      exact .inr (.inl ⟨t, ht, rfl, h.story_task ht⟩)
    · exact .inl ⟨hl, h.story_pending hl⟩
  · exact .inr (.inr ho)

theorem silent (h : Told log q) (hm : ∀ s ∈ more, s.subject? = none) (hd : Distinct r)
    (hst : ∀ id told, Standing r id told → Standing q id told) (hl : r.live = q.live) : Told (log ++ more) r := by
  have hs (id : Nat) : story id (log ++ more) = story id log :=
    story_append_of_ne fun s hs => by simp [hm s hs]
  have ha : admissionsIn more = [] := by
    apply List.filterMap_eq_nil_iff.mpr
    intro s hs
    have := hm s hs
    cases s <;> simp_all [Sign.subject?]
  constructor
  case distinct => exact hd
  case standing => exact fun id told ht => hs id ▸ h.standing id told (hst id told ht)
  case closed =>
    intro a hma
    obtain hma | hma := List.mem_append.mp hma
    · rw [hs, hl]
      exact h.closed a hma
    · cases hm _ hma
  case nodup => rw [admissionsIn_append, ha, List.append_nil]; exact h.nodup
  case order => rw [hl, admissionsIn_append, ha, List.append_nil]; exact h.order

theorem update (h : Told log q) (hm : ∀ s ∈ more, s.subject? = some id) (ha : admissionsIn more = [])
    (hd : Distinct r)
    (hst : ∀ i told, Standing r i told → i = id ∧ told = story id log ++ more ∨ i ≠ id ∧ Standing q i told)
    (hl : r.live.Sublist q.live) (hne : ∀ a ∈ q.live, a.id ≠ id → a ∈ r.live)
    (ho : ∀ a, .admitted a ∈ log → a.id = id → a ∈ r.live ∨ Over a (story id log ++ more)) :
    Told (log ++ more) r := by
  have hself : story id (log ++ more) = story id log ++ more := story_append_of_eq hm
  have hother (i : Nat) (hi : i ≠ id) : story i (log ++ more) = story i log :=
    story_append_of_ne fun s hs => by simp [hm s hs, hi.symm]
  have hadm : admissionsIn (log ++ more) = admissionsIn log := by
    rw [admissionsIn_append, ha, List.append_nil]
  constructor
  case distinct => exact hd
  case standing =>
    intro i told ht
    obtain ⟨rfl, rfl⟩ | ⟨hi, ht⟩ := hst i told ht
    · exact hself
    · rw [hother i hi]
      exact h.standing i told ht
  case closed =>
    intro a hma
    rw [← mem_admissionsIn, hadm, mem_admissionsIn] at hma
    by_cases hi : a.id = id
    · rw [hi, hself]
      exact ho a hma hi
    · rw [hother _ hi]
      exact (h.closed a hma).imp_left fun hq => hne a hq hi
  case nodup => rw [hadm]; exact h.nodup
  case order => rw [hadm]; exact hl.trans h.order

theorem of_standing (h : Told log q) (hd : Distinct r)
    (hst : ∀ id told, Standing r id told → Standing q id told) (hl : r.live = q.live) : Told log r := by
  have hs : Told (log ++ []) r := h.silent (by simp) hd hst hl
  rwa [List.append_nil] at hs

theorem of_core (h : Told log q) (hn : r.nextId = q.nextId) (hd : r.drawn = q.drawn) (hp : r.pending = q.pending)
    (ht : r.tasks = q.tasks) : Told log r := by
  have hl : r.live = q.live := by simp only [Queue.live, hp, ht]
  have hr : Distinct r := h.distinct.of_sublist (hd ▸ List.Sublist.refl _) (Nat.le_of_eq hn.symm)
    (hl ▸ List.Sublist.refl _)
  refine h.of_standing hr (fun id told hi => ?_) hl
  cases hi with
  | fresh hi => exact .fresh (hn ▸ hd ▸ hi)
  | pending ha => exact .pending (hp ▸ ha)
  | task hu => exact .task (ht ▸ hu)

theorem draw (h : Told log q) : Told log q.draw := by
  refine h.of_standing h.distinct.draw (fun id told hi => ?_) rfl
  cases hi with
  | fresh hi =>
    simp only [Queue.draw, List.mem_append, List.mem_singleton] at hi
    refine .fresh ?_
    obtain (hd | rfl) | hn := hi
    · exact .inl hd
    · exact .inr (Nat.le_refl _)
    · exact .inr (Nat.le_of_succ_le hn)
  | pending ha => exact .pending ha
  | task hu => exact .task hu

theorem grant {a : Admitted} {rest : List Admitted} (h : Told log q) (hp : q.pending = a :: rest)
    (launcher : Launcher) : Told log (q.grant launcher a rest) := by
  refine h.of_standing (h.distinct.grant hp launcher) (fun id told hi => ?_) (live_grant hp launcher)
  cases hi with
  | fresh hi => exact .fresh hi
  | @pending b hb => exact .pending (hp ▸ List.mem_cons_of_mem a hb)
  | @task t ht =>
    obtain ht | ht := List.mem_append.mp ht
    · exact .task ht
    · cases List.mem_singleton.mp ht
      exact .pending (hp ▸ List.mem_cons_self)

theorem enter (h : Told log q) (hid : id ∈ q.drawn) (job : Job) :
    Told (log ++ [.admitted ⟨id, job⟩]) (q.enter id job) := by
  have hlive : (q.enter id job).live = q.live ++ [⟨id, job⟩] := by
    simp [Queue.live, Queue.enter]
  have hone : ∀ s ∈ [Sign.admitted ⟨id, job⟩], s.subject? = some id := by
    simp [Sign.subject?]
  have hother (i : Nat) (hi : i ≠ id) : story i (log ++ [.admitted ⟨id, job⟩]) = story i log :=
    story_append_of_ne fun s hs => by simp [hone s hs, hi.symm]
  have hself : story id (log ++ [.admitted ⟨id, job⟩]) = [.admitted ⟨id, job⟩] := by
    rw [story_append_of_eq hone, h.story_fresh (.inl hid), List.nil_append]
  constructor
  case distinct => exact h.distinct.enter hid job
  case standing =>
    intro i told ht
    cases ht with
    | fresh hi =>
      have hne : i ≠ id := by
        rintro rfl
        obtain hi | hi := hi
        · exact (List.nodup_append.mp h.distinct.nodup).1.not_mem_erase hi
        · exact Nat.not_lt_of_le hi (h.distinct.lt _ (List.mem_append_left _ hid))
      rw [hother i hne]
      exact h.story_fresh (hi.imp_left List.mem_of_mem_erase)
    | pending ha =>
      obtain ha | ha := List.mem_append.mp ha
      · rw [hother _ (h.distinct.ne_of_mem_drawn hid (mem_live_of_pending ha))]
        exact h.story_pending ha
      · cases List.mem_singleton.mp ha
        exact hself
    | @task t ht =>
      have hne : t.id ≠ id := h.distinct.ne_of_mem_drawn hid (mem_live_of_task ht)
      rw [hother _ hne]
      exact h.story_task ht
  case closed =>
    intro a ha
    rw [hlive]
    obtain ha | ha := List.mem_append.mp ha
    · rw [hother _ (h.ne_of_fresh ha (.inl hid))]
      exact (h.closed a ha).imp_left (List.mem_append_left _)
    · cases List.mem_singleton.mp ha
      exact .inl (by simp)
  case nodup =>
    rw [admissionsIn_append, List.map_append]
    refine List.nodup_append.mpr ⟨h.nodup, List.pairwise_singleton _ _, fun i hi j hj => ?_⟩
    obtain ⟨a, ha, rfl⟩ := List.mem_map.mp hi
    cases List.mem_singleton.mp hj
    exact h.ne_of_fresh (mem_admissionsIn.mp ha) (.inl hid)
  case order =>
    rw [hlive, admissionsIn_append]
    exact h.order.append (List.Sublist.refl _)

theorem refuse (h : Told log q) (hid : id ∈ q.drawn) (pending limit : Nat) :
    Told (log ++ [.refused id pending limit]) (q.refuse id) := by
  have hd : Distinct (q.refuse id) :=
    h.distinct.of_sublist List.erase_sublist (Nat.le_refl _) (List.Sublist.refl _)
  refine h.update (by simp [Sign.subject?]) rfl hd ?_ (List.Sublist.refl _) (fun a ha _ => ha)
    fun a ha he => absurd he (h.ne_of_fresh ha (.inl hid))
  intro i told ht
  right
  cases ht with
  | fresh hi =>
    refine ⟨?_, .fresh (hi.imp_left List.mem_of_mem_erase)⟩
    rintro rfl
    obtain hi | hi := hi
    · exact (List.nodup_append.mp h.distinct.nodup).1.not_mem_erase hi
    · exact Nat.not_lt_of_le hi (h.distinct.lt _ (List.mem_append_left _ hid))
  | pending ha => exact ⟨h.distinct.ne_of_mem_drawn hid (mem_live_of_pending ha), .pending ha⟩
  | task ht => exact ⟨h.distinct.ne_of_mem_drawn hid (mem_live_of_task ht), .task ht⟩

theorem standing_of_ne {u : Task} {before after : List Task} {i : Nat} {told : List Sign} (h : Told log q)
    (hs : Stands q t before after) (hi : Standing r i told) (hd : r.drawn = q.drawn) (hn : r.nextId = q.nextId)
    (hp : r.pending = q.pending) (hr : ∀ v ∈ r.tasks, v = u ∨ v ∈ before ++ after) :
    (u ∈ r.tasks ∧ i = u.id ∧ told = u.stage.told u.admitted) ∨ i ≠ t.id ∧ Standing q i told := by
  have ht : t ∈ q.tasks := by simp [hs.tasks]
  cases hi with
  | fresh hi =>
    rw [hd, hn] at hi
    exact .inr ⟨(h.ne_of_fresh (h.mem_live (mem_live_of_task ht)) hi).symm, .fresh hi⟩
  | pending ha =>
    rw [hp] at ha
    exact .inr ⟨h.distinct.pending_ne ht ha, .pending ha⟩
  | @task v hv =>
    obtain rfl | hm := hr v hv
    · exact .inl ⟨hv, rfl, rfl⟩
    · have hq : v ∈ q.tasks := by
        rw [hs.tasks]
        simp_all [or_left_comm]
      exact .inr ⟨hs.ne v hm, .task hq⟩

theorem id_ne_of_answered {x : Http.Response} (h : Told log q) (hx : .answered id x ∈ log) :
    ∀ t ∈ q.tasks, t.id ≠ id := by
  rintro t ht rfl
  have hm : Sign.answered t.id x ∈ story t.admitted.id log := mem_story.mpr ⟨hx, rfl⟩
  rw [h.story_task ht] at hm
  exact t.stage.answered_notMem_told _ _ _ hm

theorem eq_admitted {a : Admitted} (h : Told log q) (ht : t ∈ q.tasks) (ha : .admitted a ∈ log)
    (hid : a.id = t.id) : a = t.admitted := by
  have hm : Sign.admitted a ∈ story t.id log := mem_story.mpr ⟨ha, by simp [Sign.subject?, hid]⟩
  rw [h.standing _ _ (.task ht)] at hm
  cases hs : t.stage with
  | discarded called => cases called <;> simpa [hs, Stage.told] using hm
  | _ => simpa [hs, Stage.told] using hm

theorem advance {s : Stage} (h : Told log q) (ht : t ∈ q.tasks) (hm : ∀ x ∈ more, x.subject? = some t.id)
    (ha : admissionsIn more = []) (hs : s.told t.admitted = t.stage.told t.admitted ++ more) :
    Told (log ++ more) (q.setStage t.id s) := by
  obtain ⟨before, after, hst⟩ := h.distinct.stands ht
  have hl := live_setStage q t.id s
  have hr : ∀ v ∈ (q.setStage t.id s).tasks, v = { t with stage := s } ∨ v ∈ before ++ after := by
    intro v hv
    rw [hst.setStage s] at hv
    simpa [or_left_comm] using hv
  have hsub : (q.setStage t.id s).live.Sublist q.live := hl ▸ List.Sublist.refl _
  refine h.update hm ha (h.distinct.setStage _ _) (fun i told hi => ?_) hsub (fun a ha _ => hl ▸ ha) fun a hma hid => ?_
  · refine (h.standing_of_ne hst hi rfl rfl rfl hr).imp_left ?_
    rintro ⟨-, rfl, rfl⟩
    refine ⟨rfl, ?_⟩
    rw [h.standing _ _ (.task ht)]
    exact hs
  · rw [hl, h.eq_admitted ht hma hid]
    exact .inl (mem_live_of_task ht)

theorem remove (h : Told log q) (ht : t ∈ q.tasks) (hm : ∀ x ∈ more, x.subject? = some t.id)
    (ha : admissionsIn more = []) (ho : Over t.admitted (t.stage.told t.admitted ++ more)) :
    Told (log ++ more) (q.removeTask t.id) := by
  obtain ⟨before, after, hst⟩ := h.distinct.stands ht
  have hl := live_removeTask_sublist q t.id
  have hd : Distinct (q.removeTask t.id) := h.distinct.of_sublist (List.Sublist.refl _) (Nat.le_refl _) hl
  have hr : ∀ v ∈ (q.removeTask t.id).tasks, v = t ∨ v ∈ before ++ after := fun v hv =>
    .inr (hst.removeTask ▸ hv)
  refine h.update hm ha hd (fun i told hi => ?_) hl (fun a hq hid => mem_live_removeTask hq hid) fun a hma hid => ?_
  · refine (h.standing_of_ne hst hi rfl rfl rfl hr).imp_left ?_
    rintro ⟨hu, -, -⟩
    rw [hst.removeTask] at hu
    exact absurd rfl (hst.ne t hu)
  · rw [h.eq_admitted ht hma hid, h.standing _ _ (.task ht)]
    exact .inr ho

end Told

theorem Move.told (h : Move q more r) (ht : Told log q) : Told (log ++ more) r := by
  cases h with
  | unseen | countRefusal =>
    rw [List.append_nil]
    exact ht.of_core rfl rfl rfl rfl
  | noRuntime =>
    exact ht.silent (by simp [Sign.subject?]) ht.distinct (fun _ _ hi => hi) rfl
  | take | dropTicket =>
    exact (ht.silent (by simp [Sign.subject?]) ht.distinct (fun _ _ hi => hi) rfl).of_core rfl rfl rfl rfl
  | draw =>
    rw [List.append_nil]
    exact ht.draw
  | enter hid => exact ht.enter hid _
  | refuse hid => exact ht.refuse hid _ _
  | grant launcher hp =>
    rw [List.append_nil]
    exact ht.grant hp launcher
  | spawn hm hs => exact ht.advance hm (by simp) rfl (by simp [hs, Stage.told])
  | @start t hm hs =>
    have h : Told (log ++ [.called t.admitted]) (q.setStage t.id .calling) :=
      ht.advance hm (by simp [Sign.subject?, Task.id]) rfl (by simp [hs, Stage.told])
    exact h.of_core rfl rfl rfl rfl
  | finish o hm hs =>
    exact ht.advance hm (by simp [Sign.subject?]) rfl (by simp [hs, Stage.told, Task.id])
  | @countEnd t o hm hs =>
    have h : Told (log ++ []) (q.setStage t.id (.counted o)) :=
      ht.advance hm (by simp) rfl (by simp [hs, Stage.told])
    exact h.of_core rfl rfl rfl rfl
  | @countFailure t o hm hs =>
    have h : Told (log ++ []) (q.setStage t.id (.recorded o)) :=
      ht.advance hm (by simp) rfl (by simp [hs, Stage.told])
    rw [countFailure_eq]
    exact h.of_core rfl rfl rfl rfl
  | @free t o hm hs =>
    have h : Told (log ++ [.freed t.id]) (q.setStage t.id (.released o)) :=
      ht.advance hm (by simp [Sign.subject?]) rfl (by simp [hs, Stage.told, Task.id])
    exact h.of_core rfl rfl rfl rfl
  | @reply t o hm hs =>
    have h : Told (log ++ [.answered t.id o.answer]) (q.removeTask t.id) :=
      ht.remove hm (by simp [Sign.subject?]) rfl (hs ▸ .answered o)
    exact h.of_core rfl rfl rfl rfl
  | @abandon t how s hm hl =>
    have h : Told (log ++ [.lost t.id how]) (q.setStage t.id s) :=
      ht.advance hm (by simp [Sign.subject?]) rfl (hl.told t.admitted)
    exact h.of_core rfl rfl rfl rfl
  | @depart t hm hl =>
    have h : Told (log ++ [.freed t.id]) (q.removeTask t.id) :=
      ht.remove hm (by simp [Sign.subject?]) rfl (.lost t.stage hl)
    exact h.of_core rfl rfl rfl rfl

theorem Moves.told (h : Moves q more r) (ht : Told log q) : Told (log ++ more) r := by
  induction h with
  | refl =>
    rw [List.append_nil]
    exact ht
  | move _ m ih =>
    rw [← List.append_assoc]
    exact m.told ih

end Turnstile.Queue
