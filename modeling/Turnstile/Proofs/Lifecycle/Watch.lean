import Turnstile.Lifecycle.Watch

namespace Turnstile.Lifecycle.Watch

variable {s r : Start} {a : Act} {t : Turn} {ts : List Turn} {order : List Act}

def Start.inOrder (order : List Act) : Start := { ahead := order }

inductive Turns (s : Start) : Turn → Start → Prop where
  | starter {a : Act} {rest : List Act} : s.ahead = a :: rest → Turns s .starter { s.perform a with ahead := rest }
  | signal : s.watcher = .waiting → Turns s .signal { s with watcher := .signalled }
  | trigger : s.watcher = .signalled → Turns s .trigger { s with watcher := .done, channel := s.channel.trigger }

theorem turns_of_turn? (h : s.turn? t = some r) : Turns s t r := by
  cases t with
  | starter =>
    simp only [Start.turn?] at h
    split at h
    · cases h
    · next ha =>
      cases h
      exact .starter ha
  | signal =>
    simp only [Start.turn?, Option.ite_none_right_eq_some, Option.some.injEq] at h
    obtain ⟨hw, rfl⟩ := h
    exact .signal hw
  | trigger =>
    simp only [Start.turn?, Option.ite_none_right_eq_some, Option.some.injEq] at h
    obtain ⟨hw, rfl⟩ := h
    exact .trigger hw

theorem turns?_append (s : Start) (ts more : List Turn) :
    s.turns? (ts ++ more) = (s.turns? ts).bind (·.turns? more) := by
  induction ts generalizing s with
  | nil => rfl
  | cons t ts ih =>
    rw [List.cons_append, Start.turns?, Start.turns?, Option.bind_assoc]
    exact Option.bind_congr fun p _ => ih p

theorem kept_of_turns? {P : Start → Prop} (hP : ∀ s t r, P s → Turns s t r → P r) (h : s.turns? ts = some r)
    (hs : P s) : P r := by
  induction ts generalizing s with
  | nil =>
    cases h
    exact hs
  | cons t ts ih =>
    obtain ⟨p, hp, h⟩ := Option.bind_eq_some_iff.mp h
    exact ih h (hP s t p hs (turns_of_turn? hp))

/-- The second task is set off once, and the gateway is given one receiver. -/
structure Once (s : Start) : Prop where
  watch : s.ahead.count .spawnWatcher ≤ 1
  watched : s.watcher ≠ .absent → .spawnWatcher ∉ s.ahead
  receiver : s.ahead.count .subscribeServer ≤ 1
  received : s.server.isSome = true → .subscribeServer ∉ s.ahead

/-- As long as no signal was sent, the receiver of the gateway is waiting for the first. -/
structure Unsent (s : Start) : Prop where
  undone : s.watcher ≠ .done
  isOpen : s.channel.isOpen = true
  sent : s.channel.sent = 0
  server : ∀ i, s.server = some i → s.channel.passed? i = some 0

structure Told (s : Start) : Prop where
  done : s.watcher = .done
  server : ∃ i passed, s.server = some i ∧ s.channel.passed? i = some passed ∧ passed < s.channel.sent

/-- A signal was sent, but there is none for the gateway. -/
structure Missed (s : Start) : Prop where
  done : s.watcher = .done
  isOpen : s.channel.isOpen = true
  server : ∀ i, s.server = some i → s.channel.passed? i = some s.channel.sent

theorem Once.turns (h : Once s) (ht : Turns s t r) : Once r := by
  obtain ⟨hw, hwd, hr, hrd⟩ := h
  cases ht with
  | @starter a rest ha =>
    have hsub : rest.Sublist s.ahead := ha ▸ List.sublist_cons_self a rest
    -- What is done now is not ahead a second time.
    have hlast {b : Act} (hc : s.ahead.count b ≤ 1) (hb : a = b) : b ∉ rest := by
      rw [ha, hb, List.count_cons_self] at hc
      exact List.count_eq_zero.mp (Nat.le_zero.mp (Nat.le_of_succ_le_succ hc))
    refine ⟨Nat.le_trans (hsub.count_le _) hw, ?_, Nat.le_trans (hsub.count_le _) hr, ?_⟩
    · cases a with
      | spawnWatcher => exact fun _ => hlast hw rfl
      | _ => exact fun hq hm => hwd hq (hsub.subset hm)
    · cases a with
      | subscribeServer => exact fun _ => hlast hr rfl
      | _ => exact fun hq hm => hrd hq (hsub.subset hm)
  | signal hq | trigger hq => exact ⟨hw, fun _ => hwd (by simp [hq]), hr, hrd⟩

theorem once_inOrder (hw : order.count .spawnWatcher = 1) (hs : order.count .subscribeServer = 1) :
    Once (.inOrder order) :=
  ⟨Nat.le_of_eq hw, fun hq => absurd rfl hq, Nat.le_of_eq hs, fun hq => nomatch hq⟩

theorem unsent_inOrder (order : List Act) : Unsent (.inOrder order) :=
  ⟨Watcher.noConfusion, rfl, rfl, fun _ h => nomatch h⟩

theorem Unsent.turns (h : Unsent s) (ht : Turns s t r) :
    Unsent r ∨ t = .trigger ∧ (s.server.isSome = true ∧ Told r ∨ s.server = none ∧ Missed r) := by
  obtain ⟨hd, ho, hn, hp⟩ := h
  cases ht with
  | @starter a rest ha =>
    left
    cases a with
    | bindListener | serve => exact ⟨hd, ho, hn, hp⟩
    | subscribeAdmin => exact ⟨hd, ho, hn, fun i hi => Broadcast.passed?_subscribe_of_some (hp i hi)⟩
    | spawnWatcher =>
      exact ⟨Watcher.noConfusion, by simp [Start.perform, Broadcast.copyHandle, Broadcast.isOpen], hn, hp⟩
    | subscribeServer =>
      refine ⟨hd, ho, hn, fun i hi => ?_⟩
      cases hi
      exact (Broadcast.passed?_subscribe _).trans (congrArg some hn)
  | signal => exact .inl ⟨Watcher.noConfusion, ho, hn, hp⟩
  | trigger =>
    refine .inr ⟨rfl, ?_⟩
    obtain hs | ⟨i, hs⟩ := Option.eq_none_or_eq_some s.server
    · exact .inr ⟨hs, rfl, (Broadcast.isOpen_trigger _).trans ho, by simp [hs]⟩
    · refine .inl ⟨by simp [hs], rfl, i, 0, hs, (Broadcast.passed?_trigger _ i).trans (hp i hs), ?_⟩
      change 0 < s.channel.trigger.sent
      rw [Broadcast.sent_trigger_of_pos (Broadcast.receiverCount_pos (hp i hs))]
      exact Nat.succ_pos _

theorem Unsent.missed (h : Unsent s) (hs : s.server = none) (ht : Turns s .trigger r) : Missed r := by
  obtain hu | ⟨-, ⟨hx, -⟩ | ⟨-, hm⟩⟩ := h.turns ht
  · cases ht
    exact absurd rfl hu.undone
  · simp [hs] at hx
  · exact hm

theorem Told.turns (h : Told s) (ho : Once s) (ht : Turns s t r) : Told r := by
  obtain ⟨hd, i, passed, hi, hp, hlt⟩ := h
  cases ht with
  | @starter a rest ha =>
    have hw : .spawnWatcher ∉ s.ahead := ho.watched (by simp [hd])
    have hs : .subscribeServer ∉ s.ahead := ho.received (by simp [hi])
    cases a with
    | bindListener | serve => exact ⟨hd, i, passed, hi, hp, hlt⟩
    | subscribeAdmin => exact ⟨hd, i, passed, hi, Broadcast.passed?_subscribe_of_some hp, hlt⟩
    | spawnWatcher => simp [ha] at hw
    | subscribeServer => simp [ha] at hs
  | signal hq | trigger hq => simp [hd] at hq

theorem Missed.turns (h : Missed s) (ho : Once s) (ht : Turns s t r) : Missed r := by
  obtain ⟨hd, hopen, hp⟩ := h
  cases ht with
  | @starter a rest ha =>
    have hw : .spawnWatcher ∉ s.ahead := ho.watched (by simp [hd])
    cases a with
    | bindListener | serve => exact ⟨hd, hopen, hp⟩
    | subscribeAdmin => exact ⟨hd, hopen, fun i hi => Broadcast.passed?_subscribe_of_some (hp i hi)⟩
    | spawnWatcher => simp [ha] at hw
    | subscribeServer =>
      refine ⟨hd, hopen, fun i hi => ?_⟩
      cases hi
      exact Broadcast.passed?_subscribe _
  | signal hq | trigger hq => simp [hd] at hq

theorem Told.isTold (h : Told s) : s.isTold = true := by
  obtain ⟨-, i, passed, hi, hp, hlt⟩ := h
  have hobs : s.observed? = some (s.channel.next passed).1 := by simp [Start.observed?, hi, hp]
  obtain hn | hn := Broadcast.next_of_lt hlt <;> simp [Start.isTold, hobs, hn]

theorem Missed.observed? (h : Missed s) : s.observed? = s.server.map fun _ => .empty := by
  cases hs : s.server with
  | none => simp [Start.observed?, hs]
  | some i => simp [Start.observed?, hs, h.server i hs, Broadcast.next, h.isOpen]

theorem Missed.isTold (h : Missed s) : s.isTold = false := by
  rw [Start.isTold, h.observed?]
  cases s.server <;> rfl

theorem Once.turns? (h : Once s) (hr : s.turns? ts = some r) : Once r :=
  kept_of_turns? (fun _ _ _ h ht => h.turns ht) hr h

theorem Told.turns? (h : Told s) (ho : Once s) (hr : s.turns? ts = some r) : Told r :=
  (kept_of_turns? (P := fun s => Told s ∧ Once s) (fun _ _ _ h ht => ⟨h.1.turns h.2 ht, h.2.turns ht⟩) hr ⟨h, ho⟩).1

theorem Missed.turns? (h : Missed s) (ho : Once s) (hr : s.turns? ts = some r) : Missed r :=
  (kept_of_turns? (P := fun s => Missed s ∧ Once s) (fun _ _ _ h ht => ⟨h.1.turns h.2 ht, h.2.turns ht⟩) hr ⟨h, ho⟩).1

theorem Unsent.turns? (h : Unsent s) (ho : Once s) (hr : s.turns? ts = some r) (hd : r.watcher = .done) :
    ∃ before after p, ts = before ++ .trigger :: after ∧ s.turns? before = some p ∧ p.watcher = .signalled ∧
      (p.server.isSome = true ∧ Told r ∨ p.server = none ∧ Missed r) := by
  induction ts generalizing s with
  | nil =>
    cases hr
    exact absurd hd h.undone
  | cons t ts ih =>
    obtain ⟨p, hp, hrest⟩ := Option.bind_eq_some_iff.mp hr
    have ht := turns_of_turn? hp
    obtain hu | ⟨rfl, hsent⟩ := h.turns ht
    · obtain ⟨before, after, x, rfl, hx, hsent⟩ := ih hu (ho.turns ht) hrest
      exact ⟨t :: before, after, x, rfl, by rw [Start.turns?, hp]; exact hx, hsent⟩
    · have hq := ho.turns ht
      refine ⟨[], ts, s, rfl, rfl, ?_, hsent.imp (.imp_right (·.turns? hq hrest)) (.imp_right (·.turns? hq hrest))⟩
      cases ht with
      | trigger hw => exact hw

theorem Unsent.of_turns? (h : Unsent s) (ho : Once s) (hr : s.turns? ts = some r) (hd : r.watcher ≠ .done) :
    Unsent r := by
  have hkept := kept_of_turns? (P := fun s => Once s ∧ (Unsent s ∨ s.watcher = .done)) ?_ hr ⟨ho, .inl h⟩
  · exact hkept.2.resolve_right hd
  · rintro s t r ⟨ho, hu | hd⟩ ht
    · refine ⟨ho.turns ht, ?_⟩
      obtain hu | ⟨-, ⟨-, hx⟩ | ⟨-, hx⟩⟩ := hu.turns ht
      · exact .inl hu
      · exact .inr hx.done
      · exact .inr hx.done
    · refine ⟨ho.turns ht, .inr ?_⟩
      cases ht with
      | @starter a rest ha =>
        have hw : .spawnWatcher ∉ s.ahead := ho.watched (by simp [hd])
        cases a with
        | spawnWatcher => simp [ha] at hw
        | subscribeAdmin | bindListener | subscribeServer | serve => exact hd
      | signal hw => simp [hd] at hw
      | trigger => rfl

theorem isTold_iff (ho : Once (.inOrder order)) (h : (Start.inOrder order).turns? ts = some r)
    (hd : r.watcher = .done) : r.isTold = true ↔ ∃ before after p, ts = before ++ .trigger :: after ∧
      (Start.inOrder order).turns? before = some p ∧ p.server.isSome = true := by
  constructor
  · intro ht
    obtain ⟨before, after, p, he, hp, -, ⟨hs, -⟩ | ⟨-, hm⟩⟩ := (unsent_inOrder order).turns? ho h hd
    · exact ⟨before, after, p, he, hp, hs⟩
    · exact absurd (ht.symm.trans hm.isTold) Bool.true_eq_false.mp
  · rintro ⟨before, after, p, rfl, hp, hs⟩
    rw [turns?_append, hp, Option.bind_some] at h
    obtain ⟨q, hq, hrest⟩ := Option.bind_eq_some_iff.mp h
    have ht := turns_of_turn? hq
    have hn : p.watcher ≠ .done := by
      cases ht with
      | trigger hw => simp [hw]
    have hu : Unsent p := (unsent_inOrder order).of_turns? ho hp hn
    obtain hx | ⟨-, ⟨-, hx⟩ | ⟨hnone, -⟩⟩ := hu.turns ht
    · cases ht
      exact absurd rfl hx.undone
    · exact (hx.turns? ((ho.turns? hp).turns ht) hrest).isTold
    · simp [hnone] at hs

def Guarded (s : Start) : Prop :=
  s.server.isSome = true ∨ s.watcher = .absent ∧ [.subscribeServer, .spawnWatcher].Sublist s.ahead

theorem Guarded.turns (h : Guarded s) (ho : Once s) (ht : Turns s t r) : Guarded r := by
  obtain hs | ⟨hw, hsub⟩ := h
  · left
    cases ht with
    | @starter a rest ha => cases a <;> simp [Start.perform, hs]
    | signal | trigger => exact hs
  · cases ht with
    | @starter a rest ha =>
      rw [ha] at hsub
      cases hsub with
      | cons_cons => exact .inl rfl
      | cons _ hsub =>
        cases a with
        | subscribeServer => exact .inl rfl
        | subscribeAdmin | bindListener | serve => exact .inr ⟨hw, hsub⟩
        | spawnWatcher =>
          have hc : rest.count .spawnWatcher = 0 := by
            have hc := ho.watch
            rw [ha, List.count_cons_self] at hc
            omega
          exact absurd (hsub.subset (by simp)) (List.count_eq_zero.mp hc)
    | signal hq | trigger hq => simp [hw] at hq

theorem exists_turns?_of_ahead {before after : List Act} (h : s.ahead = before ++ after) :
    ∃ ts p, s.turns? ts = some p ∧ p.ahead = after ∧
      (p.server.isSome = true ↔ s.server.isSome = true ∨ .subscribeServer ∈ before) ∧
      p.watcher = if .spawnWatcher ∈ before then .waiting else s.watcher := by
  induction before generalizing s with
  | nil => exact ⟨[], s, rfl, h, by simp, by simp⟩
  | cons a before ih =>
    obtain ⟨ts, p, hts, hahead, hserver, hwatcher⟩ := ih (s := { s.perform a with ahead := before ++ after }) rfl
    refine ⟨.starter :: ts, p, ?_, hahead, hserver.trans ?_, hwatcher.trans ?_⟩
    · rw [Start.turns?, Start.turn?, h]
      exact hts
    · cases a <;> simp [Start.perform]
    · cases a <;> simp [Start.perform]

theorem exists_missed {before after : List Act} (ho : Once (.inOrder (before ++ .spawnWatcher :: after)))
    (hb : .subscribeServer ∉ before) (ha : .subscribeServer ∈ after) (hw : .spawnWatcher ∉ after) :
    ∃ ts r, (Start.inOrder (before ++ .spawnWatcher :: after)).turns? ts = some r ∧ r.watcher = .done ∧
      r.server.isSome = true ∧ r.isTold = false := by
  have hahead : (Start.inOrder (before ++ .spawnWatcher :: after)).ahead = (before ++ [.spawnWatcher]) ++ after := by
    simp [Start.inOrder]
  obtain ⟨ts, p, hts, hahead, hserver, hwatcher⟩ := exists_turns?_of_ahead hahead
  have hwait : p.watcher = .waiting := by simpa using hwatcher
  have hnone : p.server = none := by simpa [Start.inOrder, hb] using hserver
  have hp : Unsent p := (unsent_inOrder _).of_turns? ho hts (by simp [hwait])
  -- The signal comes now, before the starting task goes on.
  have hsignal : p.turns? [.signal, .trigger] =
      some { p with watcher := .done, channel := p.channel.trigger } := by
    simp [Start.turns?, Start.turn?, hwait]
  have hmissed : Missed { p with watcher := .done, channel := p.channel.trigger } := by
    have hu : Unsent { p with watcher := .signalled } := ⟨Watcher.noConfusion, hp.isOpen, hp.sent, hp.server⟩
    exact hu.missed hnone (.trigger rfl)
  have hop : Once p := ho.turns? hts
  have hlast : { p with watcher := .done, channel := p.channel.trigger }.ahead = after ++ [] := by simp [hahead]
  obtain ⟨more, r, hmore, -, hrs, hrw⟩ := exists_turns?_of_ahead hlast
  refine ⟨ts ++ ([.signal, .trigger] ++ more), r, ?_, ?_, hrs.mpr (.inr ha), ?_⟩
  · rw [turns?_append, hts, Option.bind_some, turns?_append, hsignal, Option.bind_some, hmore]
  · simpa [hw] using hrw
  · exact (hmissed.turns? (hop.turns? hsignal) hmore).isTold

theorem never_missed_iff (hw : order.count .spawnWatcher = 1) (hs : order.count .subscribeServer = 1) :
    (∀ ts r, (Start.inOrder order).turns? ts = some r → r.watcher = .done → r.server.isSome = true →
      r.isTold = true) ↔ [.subscribeServer, .spawnWatcher].Sublist order := by
  have ho : Once (.inOrder order) := once_inOrder hw hs
  constructor
  · intro h
    obtain ⟨before, after, rfl⟩ := List.append_of_mem (List.count_pos_iff.mp (hw ▸ Nat.one_pos))
    by_cases hb : .subscribeServer ∈ before
    · exact (List.singleton_sublist.mpr hb).append (List.singleton_sublist.mpr List.mem_cons_self)
    · have ha : .subscribeServer ∈ after := by
        have hm : .subscribeServer ∈ before ++ .spawnWatcher :: after := List.count_pos_iff.mp (hs ▸ Nat.one_pos)
        simpa [hb] using hm
      have hwa : .spawnWatcher ∉ after := by
        rw [List.count_append, List.count_cons_self] at hw
        exact List.count_eq_zero.mp (by omega)
      obtain ⟨ts, r, hts, hd, hr, hn⟩ := exists_missed ho hb ha hwa
      exact absurd ((h ts r hts hd hr).symm.trans hn) Bool.true_eq_false.mp
  · intro hsub ts r h hd _
    obtain ⟨before, after, p, -, hp, hsig, ⟨-, ht⟩ | ⟨hnone, -⟩⟩ := (unsent_inOrder order).turns? ho h hd
    · exact ht.isTold
    · have hg := kept_of_turns? (P := fun s => Guarded s ∧ Once s) (fun _ _ _ h ht => ⟨h.1.turns h.2 ht, h.2.turns ht⟩)
        hp ⟨.inr ⟨rfl, hsub⟩, ho⟩
      obtain hs | ⟨ha, -⟩ := hg.1
      · simp [hnone] at hs
      · simp [hsig] at ha

example : ∀ admin, ¬[.subscribeServer, .spawnWatcher].Sublist (acts admin) := by decide

theorem once_acts (admin : Bool) : Once (.inOrder (acts admin)) := by
  cases admin <;> exact once_inOrder rfl rfl

/-- Once the signal is sent, the gateway is told if and only if it had its receiver by then; otherwise it waits for the
signal in vain, now and ever after. -/
theorem told_iff_subscribed_in_time {admin : Bool} {ts : List Turn} {s : Start}
    (h : (Start.begin admin).turns? ts = some s) (hd : s.watcher = .done) (hs : s.server.isSome = true) :
    (s.isTold = true ↔ ∃ before after p, ts = before ++ .trigger :: after ∧
      (Start.begin admin).turns? before = some p ∧ p.server.isSome = true) ∧
    (s.isTold = false → s.observed? = some .empty) ∧
    ∀ more r, s.turns? more = some r → r.isTold = s.isTold := by
  have ho := once_acts admin
  have hos : Once s := ho.turns? h
  refine ⟨isTold_iff ho h hd, ?_⟩
  obtain ⟨-, -, -, -, -, -, ⟨-, ht⟩ | ⟨-, hm⟩⟩ := (unsent_inOrder (acts admin)).turns? ho h hd
  · refine ⟨fun hn => absurd (ht.isTold.symm.trans hn) Bool.true_eq_false.mp, fun more r hr => ?_⟩
    rw [ht.isTold, (ht.turns? hos hr).isTold]
  · refine ⟨fun _ => ?_, fun more r hr => ?_⟩
    · rw [hm.observed?]
      obtain ⟨i, hi⟩ := Option.isSome_iff_exists.mp hs
      rw [hi, Option.map_some]
    · rw [hm.isTold, (hm.turns? hos hr).isTold]

def early : List Turn := [.starter, .starter, .signal, .trigger, .starter, .starter]

def late : List Turn := [.starter, .starter, .starter, .signal, .trigger, .starter]

theorem told_iff_subscribed_in_time_late :
    (∃ s, (Start.begin false).turns? late = some s ∧ s.isTold = true ∧
      ∃ before after p, late = before ++ .trigger :: after ∧ (Start.begin false).turns? before = some p ∧
        p.server.isSome = true) ∧
    ∃ s, (Start.begin false).turns? early = some s ∧ s.isTold = false ∧ s.observed? = some .empty ∧
      ∀ more r, s.turns? more = some r → r.isTold = false := by
  have hlate : (Start.begin false).turns? late = some _ := rfl
  have hearly : (Start.begin false).turns? early = some _ := rfl
  refine ⟨⟨_, hlate, rfl, ?_⟩, ⟨_, hearly, rfl, ?_⟩⟩
  · exact (told_iff_subscribed_in_time hlate rfl rfl).1.mp rfl
  · obtain ⟨-, hempty, hever⟩ := told_iff_subscribed_in_time hearly rfl rfl
    exact ⟨hempty rfl, hever⟩

/-- The signal may come before the gateway has its receiver, whether or not operators have theirs. -/
theorem signal_missed :
    ¬(∀ ts s, (Start.begin false).turns? ts = some s → s.watcher = .done → s.server.isSome = true →
      s.isTold = true) ∧
    ¬∀ ts s, (Start.begin true).turns? ts = some s → s.watcher = .done → s.server.isSome = true →
      s.isTold = true := by
  constructor
  · intro h
    exact absurd (h early _ rfl rfl rfl) (by decide)
  · intro h
    exact absurd (h (.starter :: early) _ rfl rfl rfl) (by decide)

end Turnstile.Lifecycle.Watch
