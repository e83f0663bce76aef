import Mathlib
import Turnstile.Proofs.Queue.Launch

namespace Turnstile.Queue

variable {p q r : Queue} {log more : List Sign} {id : Nat}

/-- What a submission comes to in a state, as a whole, and as the critical section of a submission that has got its
number already. -/
structure Admission (q : Queue) (job : Job) : Prop where
  refused_iff : q.isRunning = true → ((∃ e, (q.submit job).1 = .error e) ↔ q.pending.length = q.room)
  refused : q.isRunning = true → q.pending.length = q.room → q.submit job = (.error (.full q.room q.room),
    { q with
      nextId := q.nextId + 1
      totals := { q.totals with rejected := q.totals.rejected + 1 }
      measures := { q.measures with rejected := q.measures.rejected + 1 } })
  admitted : q.isRunning = true → q.pending.length ≠ q.room → (q.submit job).1 = .ok q.nextId ∧
    (q.submit job).2.tickets = q.tickets ++ [⟨q.nextId, .waiting⟩]
  stopped : q.isRunning = false → q.submit job = (.error .noRuntime, q)
  outside : (submit job { q with runtime := none }).1 = .error .noRuntime ∧ q.outside (fun q => (q.submit job).2) = q
  entering_iff : ∀ id, (∃ e, (q.submitSection id job).1 = .error e) ↔ q.pending.length = q.room
  entering : ∀ id, q.pending.length = q.room → q.submitSection id job =
    (.error (.full q.room q.room), { q with drawn := q.drawn.erase id, refusing := q.refusing + 1 })

theorem tickets_claim (launcher : Launcher) (q : Queue) : (q.claim launcher).tickets = q.tickets := by
  unfold claim
  split <;> rfl

theorem tickets_launch (launcher : Launcher) (q : Queue) : (q.launch launcher).tickets = q.tickets := by
  unfold launch
  induction q.claimedBy launcher generalizing q with
  | nil => rfl
  | cons id ids ih => exact ih (q.spawn launcher id)

theorem Distinct.erase_drawn_draw (h : Distinct q) : q.draw.drawn.erase q.nextId = q.drawn := by
  have hnew : q.nextId ∉ q.drawn := fun hm => Nat.lt_irrefl _ (h.lt _ (List.mem_append_left _ hm))
  change (q.drawn ++ [q.nextId]).erase q.nextId = q.drawn
  rw [List.erase_append_right _ hnew, List.erase_cons_head, List.append_nil]

theorem Balanced.admission (hb : Balanced q) (hd : Distinct q) (job : Job) : Admission q job := by
  have hroom := hb.room
  constructor
  case refused_iff =>
    intro hr
    obtain hp | hp := Nat.lt_or_ge q.pending.length q.room
    · simp [submit_of_room job hr hp, Nat.ne_of_lt hp]
    · simp [submit_of_full job hr hp, Nat.le_antisymm hroom hp]
  case refused =>
    intro hr hp
    rw [submit_of_full job hr (Nat.le_of_eq hp.symm), hp]
    simp only [refuse, countRefusal, hd.erase_drawn_draw]
    rfl
  case admitted =>
    intro hr hp
    rw [submit_of_room job hr (Nat.lt_of_le_of_ne hroom hp)]
    exact ⟨rfl, by rw [tickets_launch, accept, tickets_claim]; rfl⟩
  case stopped => exact fun hr => by simp [submit, hr]
  case outside => exact ⟨rfl, outside_submit job q⟩
  case entering_iff =>
    intro id
    obtain hp | hp := Nat.lt_or_ge q.pending.length q.room
    · simp [submitSection_of_room id job hp, Nat.ne_of_lt hp]
    · simp [submitSection_of_full id job hp, Nat.le_antisymm hroom hp]
  case entering =>
    intro id hp
    rw [submitSection_of_full id job (Nat.le_of_eq hp.symm), hp]
    rfl

theorem Sound.busy (h : Sound q) (hp : q.pending.length = q.room) (hr : 0 < q.room) :
    q.inFlight = q.slots ∧ q.holding.length = q.slots := by
  have hi : q.inFlight = q.slots := by
    obtain hn | hs := h.tight
    · rw [hn, List.length_nil] at hp
      omega
    · exact Nat.le_antisymm h.balanced.slots hs
  exact ⟨hi, by rw [length_holding, ← h.balanced.inFlight, hi]⟩

def Sign.number? : Sign → Option Nat
  | admitted a => some a.id
  | refused id _ _ => some id
  | _ => none

def numbersIn (log : List Sign) : List Nat := log.filterMap Sign.number?

def refusalsIn (log : List Sign) : List Nat := log.filterMap fun | .refused id _ _ => some id | _ => none

theorem numbersIn_append (log more : List Sign) : numbersIn (log ++ more) = numbersIn log ++ numbersIn more :=
  List.filterMap_append

theorem admitted_sublist_numbersIn (log : List Sign) :
    ((admissionsIn log).map Admitted.id).Sublist (numbersIn log) := by
  induction log with
  | nil => exact .refl _
  | cons s log ih =>
    cases s with
    | admitted a => exact ih.cons_cons a.id
    | refused id pending limit => exact ih.cons id
    | _ => exact ih

theorem numbersIn_perm (log : List Sign) :
    (numbersIn log).Perm ((admissionsIn log).map Admitted.id ++ refusalsIn log) := by
  induction log with
  | nil => exact .refl _
  | cons s log ih =>
    cases s with
    | admitted a => exact ih.cons a.id
    | refused id pending limit => exact (ih.cons id).trans List.perm_middle.symm
    | _ => exact ih

/-- What becomes of numbers: those that were decided, and those that are on their way, were on their way before or have
been given out since. -/
structure Numbers (p : Queue) (log : List Sign) (q : Queue) : Prop where
  le : p.nextId ≤ q.nextId
  perm : (numbersIn log ++ q.drawn).Perm (p.drawn ++ List.range' p.nextId (q.nextId - p.nextId))

namespace Numbers

theorem of_eq (hl : numbersIn log = []) (hn : q.nextId = p.nextId) (hd : q.drawn = p.drawn) : Numbers p log q where
  le := Nat.le_of_eq hn.symm
  perm := by simp [hl, hn, hd]

theorem of_erase (hid : id ∈ p.drawn) (hl : numbersIn log = [id]) (hn : q.nextId = p.nextId)
    (hd : q.drawn = p.drawn.erase id) : Numbers p log q where
  le := Nat.le_of_eq hn.symm
  perm := by
    rw [hl, hd, hn, Nat.sub_self, List.range'_zero, List.append_nil]
    exact (List.perm_cons_erase hid).symm

theorem trans (h : Numbers p log q) (k : Numbers q more r) : Numbers p (log ++ more) r where
  le := Nat.le_trans h.le k.le
  perm := by
    have hrange : List.range' p.nextId (q.nextId - p.nextId) ++ List.range' q.nextId (r.nextId - q.nextId) =
        List.range' p.nextId (r.nextId - p.nextId) := by
      obtain ⟨m, hm⟩ := Nat.exists_eq_add_of_le h.le
      obtain ⟨n, hn⟩ := Nat.exists_eq_add_of_le k.le
      have hboth : r.nextId - p.nextId = m + n := by omega
      rw [hboth, Nat.sub_eq_of_eq_add' hm, Nat.sub_eq_of_eq_add' hn, hm, List.range'_append_1]
    calc numbersIn (log ++ more) ++ r.drawn
      _ = numbersIn log ++ (numbersIn more ++ r.drawn) := by rw [numbersIn_append, List.append_assoc]
      _ |>.Perm (numbersIn log ++ (q.drawn ++ List.range' q.nextId (r.nextId - q.nextId))) := k.perm.append_left _
      _ = (numbersIn log ++ q.drawn) ++ List.range' q.nextId (r.nextId - q.nextId) := (List.append_assoc _ _ _).symm
      _ |>.Perm ((p.drawn ++ List.range' p.nextId (q.nextId - p.nextId)) ++
          List.range' q.nextId (r.nextId - q.nextId)) := h.perm.append_right _
      _ = p.drawn ++ List.range' p.nextId (r.nextId - p.nextId) := by rw [List.append_assoc, hrange]

theorem of_mem (h : Numbers p log q) {n : Nat} (hn : n ∈ numbersIn log) :
    n ∈ p.drawn ∨ p.nextId ≤ n ∧ n < q.nextId := by
  have hm := h.perm.mem_iff.mp (List.mem_append_left _ hn)
  have hle := h.le
  rw [List.mem_append, List.mem_range'_1] at hm
  exact hm.imp_right fun hm => by omega

end Numbers

theorem Move.numbers (h : Move q log r) : Numbers q log r := by
  cases h with
  | draw => exact ⟨Nat.le_succ _, by simp [numbersIn, Queue.draw]⟩
  | enter hid | refuse hid => exact .of_erase hid rfl rfl rfl
  | countFailure =>
    rw [countFailure_eq]
    exact .of_eq rfl rfl rfl
  | _ => exact .of_eq rfl rfl rfl

theorem Moves.numbers (h : Moves q log r) : Numbers q log r := by
  induction h with
  | refl => exact .of_eq rfl rfl rfl
  | move _ m ih => exact ih.trans m.numbers

theorem nextId_claim (launcher : Launcher) (q : Queue) : (q.claim launcher).nextId = q.nextId := by
  unfold claim
  split <;> rfl

theorem nextId_discard (id : Nat) (q : Queue) : (q.discard id).nextId = q.nextId := by
  unfold discard
  split <;> rfl

theorem Acts.nextId_eq {a : Action} (h : Acts q a r) (ha : a ≠ .draw) : r.nextId = q.nextId := by
  cases h with
  | draw => exact absurd rfl ha
  | submit job =>
    unfold submitSection
    split
    · rfl
    · exact nextId_claim _ _
  | countFailure =>
    rw [countFailure_eq]
    rfl
  | release | vacate => exact nextId_claim _ _
  | _ => rfl

theorem nextId_of_step {e : Event} (h : q.step? e = some r) (he : e ≠ .act .draw) : r.nextId = q.nextId := by
  cases e with
  | act a =>
    obtain ⟨⟨s, x⟩, hact, rfl⟩ := Option.map_eq_some_iff.mp h
    exact (acts_of_act? hact).nextId_eq fun ha => he (ha ▸ rfl)
  | submitOutside job =>
    cases h
    rfl
  | poll id =>
    cases h
    cases hr : (q.ticket? id).bind TicketState.response? <;> simp only [poll, hr, dropTicket]
  | discard id =>
    simp only [step?, Option.ite_none_right_eq_some, Option.some.injEq] at h
    obtain ⟨-, rfl⟩ := h
    exact nextId_discard id q
  | vacateOutside id =>
    simp only [step?, Option.ite_none_right_eq_some, Option.some.injEq] at h
    obtain ⟨-, rfl⟩ := h
    exact nextId_claim _ _
  | schedule | stop =>
    simp only [step?, Option.ite_none_right_eq_some, Option.some.injEq] at h
    obtain ⟨-, rfl⟩ := h
    rfl
  | restart =>
    simp only [step?, Option.ite_none_left_eq_some, Option.some.injEq] at h
    obtain ⟨-, rfl⟩ := h
    rfl

/-- No submission gets its number while another is on its way to the queue with its own. -/
def apart (q : Queue) (e : Event) : Prop := attended q e ∧ (e = .act .draw → q.drawn = [])

theorem eq_of_perm_of_length_le {α : Type} {l k : List α} (h : l.Perm k) (hk : k.length ≤ 1) : l = k := by
  match k, hk with
  | [], _ => exact h.eq_nil
  | [a], _ => exact List.perm_singleton.mp h

theorem numbers_draw (hseq : numbersIn log = List.range' 1 (q.nextId - 1)) (hd : q.drawn = []) (hpos : 1 ≤ q.nextId) :
    numbersIn log ++ q.draw.drawn = List.range' 1 (q.draw.nextId - 1) := by
  obtain ⟨n, hn⟩ := Nat.exists_eq_add_of_le hpos
  have hlast : q.draw.nextId - 1 = n + 1 := by simp [draw, hn, Nat.add_comm]
  have hdrawn : q.draw.drawn = [1 + n] := by simp [draw, hd, hn]
  rw [hdrawn, hlast, hseq, hn, Nat.add_sub_cancel_left, List.range'_1_concat]

theorem Run.numbers_of_apart {limits : Config.Queue} (h : Run apart (new limits) log q) :
    numbersIn log ++ q.drawn = List.range' 1 (q.nextId - 1) ∧ q.drawn.length ≤ 1 ∧ 1 ≤ q.nextId := by
  induction h with
  | refl => exact ⟨rfl, Nat.zero_le _, Nat.le_refl _⟩
  | @step log q r e _ ha hs ih =>
    obtain ⟨hseq, hlen, hpos⟩ := ih
    -- any other step gives no number out, so with one number on its way there is no choice which one it decides
    by_cases he : e = .act .draw
    · subst he
      have hnone := ha.2 rfl
      simp only [step?, act?, Option.map_eq_some_iff, Option.ite_none_right_eq_some, Option.some.injEq] at hs
      obtain ⟨-, ⟨-, rfl⟩, rfl⟩ := hs
      rw [hnone, List.append_nil] at hseq
      have hsame : log ++ q.signs (.act .draw) = log := List.append_nil log
      rw [hsame]
      exact ⟨numbers_draw hseq hnone hpos, by simp [draw, hnone], Nat.le_succ_of_le hpos⟩
    · have hn := nextId_of_step hs he
      have hstep := (moves_of_step hs).numbers.perm
      rw [hn, Nat.sub_self, List.range'_zero, List.append_nil] at hstep
      have heq := eq_of_perm_of_length_le hstep hlen
      refine ⟨?_, ?_, hn ▸ hpos⟩
      · rw [numbersIn_append, List.append_assoc, heq, hn, hseq]
      · have hle := hstep.length_eq
        rw [List.length_append] at hle
        omega

def Admitted.word (a : Admitted) : UInt64 := UInt64.ofNat a.id

theorem Admitted.word_lt_word {a b : Admitted} (h : a.id < b.id) (hb : b.id < 2 ^ 64) : a.word < b.word := by
  rw [UInt64.lt_iff_toNat_lt, word, word, UInt64.toNat_ofNat_of_lt' hb, UInt64.toNat_ofNat_of_lt' (Nat.lt_trans h hb)]
  exact h

def Ascending (admitted : List Admitted) (q : Queue) : Prop :=
  q.nextId ≤ 2 ^ 64 → (admitted.map Admitted.word).Pairwise (· < ·)

theorem ascending_of_pairwise {admitted : List Admitted} (h : (admitted.map Admitted.id).Pairwise (· < ·))
    (hlt : ∀ a ∈ admitted, a.id < q.nextId) : Ascending admitted q := by
  intro hn
  rw [List.pairwise_map] at h ⊢
  exact h.imp_of_mem fun _ hb hab => Admitted.word_lt_word hab (Nat.lt_of_lt_of_le (hlt _ hb) hn)

/-- What has become of all numbers, and that no two tickets show the same. -/
structure Numbering (log : List Sign) (q : Queue) : Prop where
  used : ((admissionsIn log).map Admitted.id ++ refusalsIn log ++ q.drawn).Perm (List.range' 1 (q.nextId - 1))
  distinct : q.nextId ≤ 2 ^ 64 → ((admissionsIn log).map Admitted.word).Nodup

theorem Admitted.id_mem_numbersIn {a : Admitted} (ha : a ∈ admissionsIn log) : a.id ∈ numbersIn log :=
  (admitted_sublist_numbersIn log).subset (List.mem_map_of_mem ha)

theorem Moves.lt_nextId {limits : Config.Queue} (h : Moves (new limits) log q) :
    ∀ a ∈ admissionsIn log, a.id < q.nextId := by
  intro a ha
  obtain hm | hm := h.numbers.of_mem (Admitted.id_mem_numbersIn ha)
  · cases hm
  · exact hm.2

theorem Moves.numbering {limits : Config.Queue} (h : Moves (new limits) log q) : Numbering log q := by
  have hused : ((admissionsIn log).map Admitted.id ++ refusalsIn log ++ q.drawn).Perm (List.range' 1 (q.nextId - 1)) :=
    ((numbersIn_perm log).symm.append_right q.drawn).trans h.numbers.perm
  refine ⟨hused, fun hn => ?_⟩
  have hnodup : ((admissionsIn log).map Admitted.id).Nodup :=
    (hused.nodup_iff.mpr List.nodup_range').of_append_left.of_append_left
  have hlt (a : Admitted) (ha : a ∈ admissionsIn log) : a.id < 2 ^ 64 := Nat.lt_of_lt_of_le (h.lt_nextId a ha) hn
  rw [List.Nodup, List.pairwise_map] at hnodup ⊢
  refine hnodup.imp_of_mem fun ha hb hne he => hne ?_
  rw [Admitted.word, Admitted.word, ← UInt64.toNat_inj, UInt64.toNat_ofNat_of_lt' (hlt _ ha),
    UInt64.toNat_ofNat_of_lt' (hlt _ hb)] at he
  exact he

theorem Moves.lt_of_mem {limits : Config.Queue} {a b : Admitted} (h : Moves (new limits) log q) (k : Moves q more r)
    (ha : a ∈ admissionsIn log) (hb : b ∈ admissionsIn more) (hd : b.id ∉ q.drawn) : a.id < b.id ∧ b.id < r.nextId := by
  obtain hm | ⟨hle, hlt⟩ := k.numbers.of_mem (Admitted.id_mem_numbersIn hb)
  · exact absurd hm hd
  · exact ⟨Nat.lt_of_lt_of_le (h.lt_nextId a ha) hle, hlt⟩

theorem Run.ascending_of_apart {limits : Config.Queue} (h : Run apart (new limits) log q) :
    Ascending (admissionsIn log) q := by
  obtain ⟨hseq, -⟩ := h.numbers_of_apart
  have hall : (numbersIn log ++ q.drawn).Pairwise (· < ·) := hseq ▸ List.pairwise_lt_range'
  have hnumbers := (List.pairwise_append.mp hall).1
  exact ascending_of_pairwise (hnumbers.sublist (admitted_sublist_numbersIn log)) h.moves.lt_nextId

theorem pairwise_admissionsBy (x : Operation) (q : Queue) :
    ((q.admissionsBy x).map Admitted.id).Pairwise (· < ·) := by
  cases x with
  | submit job =>
    simp only [admissionsBy, admittedBy]
    split
    · exact List.pairwise_singleton _ _
    · exact .nil
  | _ => exact .nil

theorem Paused.nextId_operate (h : Paused [] q) (auto : Option Outcome) (x : Operation) :
    q.nextId ≤ (q.operate auto x).nextId ∧
      ∀ b ∈ q.admissionsBy x, q.nextId ≤ b.id ∧ b.id < (q.operate auto x).nextId := by
  obtain ⟨⟨log, hrun, hdecided⟩, -⟩ := h.operate auto x
  have hnumbers := hrun.moves.numbers
  rw [← admissionsIn_decisionsBy, ← hdecided, admissionsIn_decisionsIn]
  refine ⟨hnumbers.le, fun b hb => ?_⟩
  obtain hm | hm := hnumbers.of_mem (Admitted.id_mem_numbersIn hb)
  · rw [h.quiet.2.1] at hm
    cases hm
  · exact hm

theorem Operated.pairwise {limits : Config.Queue} {admitted : List Admitted} (h : Operated limits admitted q) :
    (admitted.map Admitted.id).Pairwise (· < ·) ∧ ∀ a ∈ admitted, a.id < q.nextId := by
  induction h with
  | new => exact ⟨.nil, nofun⟩
  | @operate admitted q auto x h ih =>
    obtain ⟨hpairs, hlt⟩ := ih
    obtain ⟨hle, hnew⟩ := h.reaches.2.nextId_operate auto x
    refine ⟨?_, List.forall_mem_append.mpr ⟨fun a ha => Nat.lt_of_lt_of_le (hlt a ha) hle, fun b hb => (hnew b hb).2⟩⟩
    rw [List.map_append, List.pairwise_append]
    refine ⟨hpairs, pairwise_admissionsBy x q, ?_⟩
    exact List.forall_mem_map.mpr fun a ha => List.forall_mem_map.mpr fun b hb =>
      Nat.lt_of_lt_of_le (hlt a ha) (hnew b hb).1

/-- Whether a submission is admitted is decided by how many jobs wait, in every state that can be reached; a refusal
uses up a number and is counted, or, without a runtime, leaves no trace. While the runtime keeps its promise, nobody is
refused beside a free slot, unless no job may ever wait. The numbers of the admitted, of the refused and of those on
their way are all numbers there were, each once. A submission that begins when another one is decided gets the greater
number; so where submissions do not overlap, the numbers on the tickets ascend in the order of the admissions. -/
theorem decided_by_capacity (limits : Config.Queue) :
    (∀ allowed log q, Run allowed (new limits) log q →
      q.limits = limits ∧ (∀ job, Admission q job) ∧ Numbering log q ∧
      ∀ more r, Run allowed q more r → r.nextId ≤ 2 ^ 64 →
        ∀ a ∈ admissionsIn log, ∀ b ∈ admissionsIn more, b.id ∉ q.drawn → a.word < b.word) ∧
    (∀ log q, Run attended (new limits) log q → q.pending.length = q.room → 0 < q.room →
      q.inFlight = q.slots ∧ q.holding.length = q.slots) ∧
    (∀ log q, Run apart (new limits) log q → Ascending (admissionsIn log) q) ∧
    ∀ admitted q, Operated limits admitted q → q.drawn = [] ∧ Ascending admitted q ∧
      ∃ log, Run attended (new limits) log q ∧ admissionsIn log = admitted := by
  refine ⟨fun allowed log q h => ?_, fun log q h => (h.sound (.new limits)).busy, fun log q h => h.ascending_of_apart,
    fun admitted q h => ?_⟩
  · have hd := h.moves.distinct (distinct_new limits)
    have hb := h.moves.balanced (distinct_new limits) (.new limits)
    refine ⟨h.moves.limits, hb.admission hd, h.moves.numbering, fun more r k hr a ha b hb hd => ?_⟩
    obtain ⟨hab, hlt⟩ := h.moves.lt_of_mem k.moves ha hb hd
    exact Admitted.word_lt_word hab (Nat.lt_of_lt_of_le hlt hr)
  · obtain ⟨⟨log, hrun, hlog⟩, hp⟩ := h.reaches
    exact ⟨hp.quiet.2.1, ascending_of_pairwise h.pairwise.1 h.pairwise.2, log, hrun.mono fun _ _ he => he.1, hlog⟩

def keepsApart (q : Queue) : List Event → Bool
  | [] => true
  | e :: es => (e ≠ .act .draw || q.drawn.isEmpty) && (q.step? e).any fun r => keepsApart r es

theorem run_of_keepsApart {es : List Event} (ha : ∀ e ∈ es, ∀ q, attended q e) (hk : q.keepsApart es = true)
    (h : q.play? es = some (log, r)) : Run apart q log r := by
  induction es generalizing q log with
  | nil =>
    cases h
    exact .refl
  | cons e es ih =>
    simp only [play?, Option.bind_eq_bind, Option.bind_eq_some_iff, Option.some.injEq, Prod.mk.injEq] at h
    obtain ⟨p, hp, ⟨more, s⟩, hs, rfl, rfl⟩ := h
    simp only [keepsApart, hp, Option.any_some, Bool.and_eq_true, Bool.or_eq_true, decide_eq_true_eq,
      List.isEmpty_iff] at hk
    have hapart : apart q e := ⟨ha e List.mem_cons_self q, fun he => hk.1.resolve_left fun hne => hne he⟩
    exact (Run.single hapart hp).trans (ih (fun e he => ha e (List.mem_cons_of_mem _ he)) hk.2 hs)

def turnedAway : List Event :=
  [.act .draw, .act (.submit 1 plainJob), .act (.spawn (.submission 1)), .act .draw, .act (.submit 2 plainJob),
    .act .draw, .act (.submit 3 plainJob), .act .countRefusal, .act (.start 1), .act (.finish 1 .panic),
    .act (.countEnd 1), .act (.countFailure 1), .act (.release 1), .act .draw, .act (.submit 4 plainJob)]

theorem decided_by_capacity_turnedAway :
    ∃ log q, (new ⟨1, 1⟩).play? turnedAway = some (log, q) ∧ (admissionsIn log).map Admitted.id = [1, 2, 4] ∧
      refusalsIn log = [3] ∧ Numbering log q ∧ ((admissionsIn log).map Admitted.word).Pairwise (· < ·) ∧
      q.inFlight = q.slots ∧ q.submit plainJob = (.error (.full 1 1),
        { q with
          nextId := 6
          totals := { q.totals with rejected := 2 }
          measures := { q.measures with rejected := 2 } }) := by
  obtain ⟨log, q, h, hids, hrefused, hr, hp, hn, ht, hm⟩ : ∃ log q,
      (new ⟨1, 1⟩).play? turnedAway = some (log, q) ∧ (admissionsIn log).map Admitted.id = [1, 2, 4] ∧
      refusalsIn log = [3] ∧ q.isRunning = true ∧ q.pending.length = 1 ∧ q.nextId = 5 ∧ q.totals.rejected = 1 ∧
      q.measures.rejected = 1 := ⟨_, _, rfl, rfl, rfl, rfl, rfl, rfl, rfl, rfl⟩
  have hapart : Run apart (new ⟨1, 1⟩) log q :=
    run_of_keepsApart (by simp [turnedAway, attended]) (by decide) h
  have hattended : Run attended (new ⟨1, 1⟩) log q := hapart.mono fun _ _ ha => ha.1
  obtain ⟨hall, hbusy, hascending, -⟩ := decided_by_capacity ⟨1, 1⟩
  obtain ⟨hl, hadmission, hnumbering, -⟩ := hall attended log q hattended
  have hroom : q.room = 1 := by
    rw [room, hl]
    rfl
  have hfull : q.pending.length = q.room := hp.trans hroom.symm
  have hsubmit := (hadmission plainJob).refused hr hfull
  rw [hroom, hn, ht, hm] at hsubmit
  have hpos : 0 < q.room := by omega
  exact ⟨log, q, h, hids, hrefused, hnumbering, hascending log q hapart (by omega),
    (hbusy log q hattended hfull hpos).1, hsubmit⟩

end Turnstile.Queue
