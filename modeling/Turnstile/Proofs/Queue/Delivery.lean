import Turnstile.Proofs.Queue.Order
import Turnstile.Proofs.Queue.Tale
import Turnstile.Proofs.Queue.Tickets

namespace Turnstile.Queue

variable {q r : Queue} {log more : List Sign} {id : Nat} {a : Admitted}

def callsIn (log : List Sign) : List Admitted := log.filterMap fun | .called a => some a | _ => none

theorem callsIn_append : callsIn (log ++ more) = callsIn log ++ callsIn more := List.filterMap_append

theorem mem_callsIn : a ∈ callsIn log ↔ .called a ∈ log := by
  simp only [callsIn, List.mem_filterMap]
  constructor
  · rintro ⟨s, hs, h⟩
    cases s <;> simp_all
  · exact fun h => ⟨_, h, rfl⟩

theorem Move.calls (h : Move q more r) : r.calls = q.calls ++ callsIn more := by
  cases h with
  | start => rfl
  | countFailure =>
    rw [countFailure_eq]
    exact (List.append_nil _).symm
  | _ => exact (List.append_nil _).symm

theorem Moves.calls (h : Moves q more r) : r.calls = q.calls ++ callsIn more := by
  induction h with
  | refl => exact (List.append_nil _).symm
  | move _ m ih => rw [m.calls, ih, callsIn_append, List.append_assoc]

/-- What a job has coming to it: the response of its own call as it is, and the one answer for every call that fails or
panics and for every job that gets lost. -/
inductive Due (log : List Sign) (id : Nat) : Http.Response → Prop where
  | response {r : Http.Response} : .ended id (.response r) ∈ log → Due log id r
  | failed {o : Outcome} : .ended id o ∈ log → o.isFailure = true → Due log id (.plain 502 "Upstream error")
  | lost {how : Loss} : .lost id how ∈ log → Due log id (.plain 502 "Upstream error")

/-- Every admitted job is called as it was submitted, once, unless it still waits for its call or was discarded before
it; what was refused is never called. -/
structure ExecutedOnce (log : List Sign) (q : Queue) : Prop where
  calls : q.calls = callsIn log
  once : (q.calls.map Admitted.id).Nodup
  unchanged : ∀ a ∈ q.calls, a ∈ admissionsIn log
  distinct : ((admissionsIn log).map Admitted.id).Nodup
  uncalled : ∀ a ∈ admissionsIn log, a ∉ q.calls ↔
    a ∈ q.pending ∨ a ∈ q.unstarted ∨ [.admitted a, .lost a.id .discarded] <+: story a.id log
  refused : ∀ id pending limit, .refused id pending limit ∈ log → ∀ a ∈ admissionsIn log, a.id ≠ id

/-- A ticket shows nothing as long as its job is neither answered nor lost. After that it shows what the job has coming
to it, which is one thing only, and its holder gets it once. -/
structure DeliveredOnce (log : List Sign) (q : Queue) : Prop where
  unresolved : ∀ k ∈ q.tickets, (q.poll k.id).1 = none ↔ ∃ a, q.Owes a ∧ a.id = k.id
  decided : ∀ a ∈ admissionsIn log, q.Owes a ↔ a.id ∉ verdictsIn log
  verdicts : (verdictsIn log).Nodup
  endings : (endingsIn log).Nodup
  kept : ∀ a ∈ admissionsIn log, a.id ∈ q.tickets.map Ticket.id ∨ .dropped a.id ∈ log ∨ a.id ∈ takenIn log
  taken : (takenIn log).Nodup
  shown : ∀ k ∈ q.tickets, ∀ x, (q.poll k.id).1 = some x → Due log k.id x
  handed : ∀ id x, .taken id x ∈ log → Due log id x

def called? : Sign → Option Nat
  | .called a => some a.id
  | _ => none

theorem map_id_callsIn (log : List Sign) : (callsIn log).map Admitted.id = log.filterMap called? := by
  rw [callsIn, List.map_filterMap]
  congr 1
  funext s
  cases s <;> rfl

namespace Told

variable (h : Told log q) (hk : Known log)
include h hk

theorem admitted_of_called (hc : .called a ∈ log) : .admitted a ∈ log := by
  obtain ⟨b, hb, -, hm, ht⟩ := h.tale_of_mem hk hc rfl nofun
  rw [ht.called_eq hm]
  exact hb

theorem nodup_calls : ((callsIn log).map Admitted.id).Nodup := by
  rw [map_id_callsIn]
  apply h.nodup_filterMap hk
  · intro s i hs
    cases s <;> simp_all [called?, Sign.subject?]
  · exact fun _ _ _ => rfl
  · exact fun a told ht => ht.length_filterMap_le (fun o => Nat.le_refl _) fun how => Nat.le_refl _

theorem nodup_verdicts : (verdictsIn log).Nodup := by
  apply h.nodup_filterMap hk
  · intro s i hs
    cases s <;> simp_all [verdict?, Sign.subject?]
  · exact fun _ _ _ => rfl
  · exact fun a told ht => ht.length_filterMap_le (fun o => Nat.le_refl _) fun how => Nat.le_refl _

theorem nodup_endings : (endingsIn log).Nodup := by
  apply h.nodup_filterMap hk
  · intro s i hs
    cases s <;> simp_all [Sign.subject?]
  · exact fun _ _ _ => rfl
  · exact fun a told ht => ht.length_filterMap_le (fun o => Nat.le_refl _) fun how => Nat.le_refl _

theorem due {x : Http.Response} (hv : Verdict log id x) : Due log id x := by
  cases hv with
  | lost hm => exact .lost hm
  | answered hm =>
    obtain ⟨o, ho, rfl⟩ := h.exists_ended_of_answered hk hm
    cases o with
    | response r => exact .response ho
    | error e => exact .failed ho rfl
    | panic => exact .failed ho rfl

/-- Once the job of a ticket is done with, the ticket shows how its call has ended, if it has. -/
theorem ticket?_of_ended {o : Outcome} (hq : Ticketed log q) (hid : id ∈ q.tickets.map Ticket.id)
    (hl : ∀ a ∈ q.live, a.id ≠ id) (ho : .ended id o ∈ log) : q.ticket? id = some (.answered o.answer) := by
  obtain ⟨k, hm, rfl⟩ := List.mem_map.mp hid
  have hf : q.ticket? k.id = some k.state := by
    rw [ticket?, find?_of_nodup hq.nodup hm]
    rfl
  have hshown := hq.shown k hm
  rw [hf]
  generalize k.state = s at hshown
  cases hshown with
  | waiting hb hi => exact absurd hi (hl _ hb.live)
  | answered hr => rw [h.answer_eq_of_ended hk ho hr]
  | abandoned hr => exact absurd hr (h.lost_notMem_of_ended hk ho _)

end Told

theorem Stage.uncalled {s : Stage} (h : .called a ∉ s.told a) :
    s.isUnstarted = true ∨ s.told a = [.admitted a, .lost a.id .discarded] := by
  cases s with
  | claimed | spawned => exact .inl rfl
  | discarded called =>
    cases called with
    | false => exact .inr rfl
    | true => simp [told] at h
  | calling | ended | counted | recorded | released | crashed => simp [told] at h

theorem Stage.uncalled_of_lost (s : Stage) (h : [.admitted a, .lost a.id .discarded] <+: s.told a) :
    .called a ∉ s.told a := by
  cases s with
  | discarded called => cases called <;> simp [told] at h ⊢
  | _ => simp [told] at h ⊢

theorem Told.uncalled_iff (h : Told log q) (ha : .admitted a ∈ log) : a ∉ callsIn log ↔
    a ∈ q.pending ∨ a ∈ q.unstarted ∨ [.admitted a, .lost a.id .discarded] <+: story a.id log := by
  have hc : a ∈ callsIn log ↔ .called a ∈ story a.id log := by
    simp [mem_callsIn, mem_story, Sign.subject?]
  rw [hc]
  constructor
  · intro hn
    obtain ⟨hp, -⟩ | ⟨t, hm, rfl, he⟩ | ho := h.cases ha
    · exact .inl hp
    · right
      rw [he] at hn ⊢
      obtain hu | hl := t.stage.uncalled hn
      · exact .inl (List.mem_map_of_mem (List.mem_filter.mpr ⟨hm, hu⟩))
      · exact .inr (hl ▸ List.prefix_refl _)
    · right
      right
      generalize story a.id log = told at ho hn
      cases ho with
      | answered o => simp [Stage.told] at hn
      | lost s hl =>
        obtain hu | hs := s.uncalled fun hm => hn (List.mem_append_left _ hm)
        · cases s with
          | discarded | crashed => cases hu
          | _ => cases hl
        · exact ⟨[.freed a.id], by rw [hs]⟩
  · rintro (hp | hu | hfirst) hm
    · simp [h.story_pending hp] at hm
    · obtain ⟨t, htq, rfl⟩ := List.mem_map.mp hu
      obtain ⟨htq, hs⟩ := List.mem_filter.mp htq
      rw [h.story_task htq] at hm
      cases hstage : t.stage <;> simp [hstage, Stage.told, Stage.isUnstarted] at hs hm
    · have htale := h.tale ha
      generalize story a.id log = told at htale hm hfirst
      cases htale with
      | going s => exact s.uncalled_of_lost hfirst hm
      | closed ho =>
        cases ho with
        | answered o => simp [Stage.told] at hfirst
        | lost s hl =>
          have hshort : [.admitted a, .lost a.id .discarded] <+: s.told a := by
            refine List.prefix_of_prefix_length_le hfirst (List.prefix_append _ _) ?_
            cases s with
            | discarded called => cases called <;> exact Nat.le_of_ble_eq_true rfl
            | crashed => exact Nat.le_of_ble_eq_true rfl
            | _ => cases hl
          exact s.uncalled_of_lost hshort (by simpa using hm)

theorem executed_and_delivered_once {allowed : Queue → Event → Prop} {limits : Config.Queue}
    (h : Run allowed (new limits) log q) : ExecutedOnce log q ∧ DeliveredOnce log q := by
  have ht : Told log q := h.moves.told (.new limits)
  have hk : Known log := h.moves.known (.new limits) .nil
  have hq : Ticketed log q := h.moves.ticketed (.new limits) (.new limits)
  have hc : q.calls = callsIn log := h.moves.calls
  constructor
  · constructor
    case calls => exact hc
    case once => exact hc ▸ ht.nodup_calls hk
    case unchanged =>
      intro a ha
      exact mem_admissionsIn.mpr (ht.admitted_of_called hk (mem_callsIn.mp (hc ▸ ha)))
    case distinct => exact ht.nodup
    case uncalled =>
      intro a ha
      rw [hc]
      exact ht.uncalled_iff (mem_admissionsIn.mp ha)
    case refused =>
      rintro id pending limit hr a ha rfl
      exact (ht.tale (mem_admissionsIn.mp ha)).refused_notMem (mem_story.mpr ⟨hr, rfl⟩)
  · constructor
    case unresolved => exact fun k hm => hq.unresolved ht hm
    case decided => exact fun a ha => ht.owes_iff (mem_admissionsIn.mp ha)
    case verdicts => exact ht.nodup_verdicts hk
    case endings => exact ht.nodup_endings hk
    case kept => exact fun a ha => hq.kept a (mem_admissionsIn.mp ha)
    case taken => exact hq.once
    case shown =>
      intro k hm x hx
      rw [hq.poll hm] at hx
      exact ht.due hk ((hq.shown k hm).verdict hx)
    case handed => exact fun id x hx => ht.due hk (hq.taken id x hx).2

theorem executed_and_delivered_once_overtaking :
    ∃ log q, (new ⟨1, 1⟩).play? overtaking = some (log, q) ∧ q.calls.map Admitted.id = [2, 1] ∧
      .taken 2 (.plain 502 "Upstream error") ∈ log ∧ ExecutedOnce log q ∧ DeliveredOnce log q := by
  obtain ⟨log, q, h, hc, ht⟩ : ∃ log q, (new ⟨1, 1⟩).play? overtaking = some (log, q) ∧
      q.calls.map Admitted.id = [2, 1] ∧ .taken 2 (.plain 502 "Upstream error") ∈ log :=
    ⟨_, _, rfl, rfl, by decide⟩
  have hrun : Run attended (new ⟨1, 1⟩) log q := run_of_play? attended_overtaking h
  exact ⟨log, q, h, hc, ht, executed_and_delivered_once hrun⟩

end Turnstile.Queue
