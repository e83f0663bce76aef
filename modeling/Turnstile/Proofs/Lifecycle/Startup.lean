import Turnstile.Lifecycle.Startup
import Turnstile.Proofs.Config.Rules

namespace Turnstile.Lifecycle.Startup

open Address Config

variable {m : Machine} {c : Config}

def addresses (c : Config) : List String :=
  (if c.observability.metricsEnabled then [c.observability.metricsAddress] else []) ++
    ((if c.admin.enabled then [c.admin.bindAddress] else []) ++ [c.listener.bindAddress])

/-- What can be used as a configuration. -/
structure Usable (c : Config) : Prop where
  server : ∃ s, Server.ofConfig c = .ok s
  addresses : ∀ v ∈ addresses c, ∃ a, address v = .ok a
  positive : ∀ n ∈ [c.forwarding.connectTimeout, c.forwarding.requestTimeout, c.queue.maxConcurrency,
    c.queue.maxQueueSize, c.security.maxBodySize], n ≠ 0
  key : c.admin.enabled = true → c.admin.apiKey ≠ ""

section

variable {ε ε' α β : Type} {x : Except ε α} {e : ε} {g : ε → ε'} {e' : ε'} {f : α → Except ε β} {b : β} {a : α}

theorem bind_eq_error_iff : x >>= f = .error e ↔ x = .error e ∨ ∃ a, x = .ok a ∧ f a = .error e := by
  cases x <;> simp [bind, Except.bind]

theorem bind_eq_ok_iff : x >>= f = .ok b ↔ ∃ a, x = .ok a ∧ f a = .ok b := by
  cases x <;> simp [bind, Except.bind]

theorem mapError_eq_error_iff : x.mapError g = .error e' ↔ ∃ e, x = .error e ∧ g e = e' := by
  cases x with
  | error e =>
    change Except.error (g e) = .error e' ↔ _
    simp
  | ok a =>
    change Except.ok a = .error e' ↔ _
    simp

theorem mapError_eq_ok_iff : x.mapError g = .ok a ↔ x = .ok a := by
  cases x with
  | error e =>
    change Except.error (g e) = .ok a ↔ _
    simp
  | ok b =>
    change Except.ok b = .ok a ↔ _
    simp

end

theorem exists_address_eq_ok_iff {v : String} : (∃ a, address v = .ok a) ↔ ∃ a, Socket.parse? v = some a := by
  cases h : Socket.parse? v <;> simp [address, h]

theorem exists_ofConfig_eq_ok_iff : (∃ s, Server.ofConfig c = .ok s) ↔
    (∃ u, Origin.parse c.forwarding.origin = .ok u) ∧
      ∃ name, Http.HeaderName.parse? (Bytes.ofString c.auth.headerName) = some name := by
  cases ho : Origin.parse c.forwarding.origin with
  | error p => simp [Server.ofConfig, ho]
  | ok u =>
    cases hh : Http.HeaderName.parse? (Bytes.ofString c.auth.headerName) <;> simp [Server.ofConfig, ho, hh]

theorem forall_mem_addresses {P : String → Prop} : (∀ v ∈ addresses c, P v) ↔
    (c.observability.metricsEnabled = true → P c.observability.metricsAddress) ∧
      (c.admin.enabled = true → P c.admin.bindAddress) ∧ P c.listener.bindAddress := by
  cases hm : c.observability.metricsEnabled <;> cases ha : c.admin.enabled <;> simp [addresses, hm, ha]

theorem forall_holds_iff : (∀ r : Rule, r.Holds c) ↔ Usable c := by
  constructor
  · intro h
    constructor
    case server => exact exists_ofConfig_eq_ok_iff.mpr ⟨h .origin rfl, h .headerName rfl⟩
    case addresses =>
      simp only [exists_address_eq_ok_iff]
      exact forall_mem_addresses.mpr ⟨h .metricsAddress, h .adminAddress, h .listenerAddress rfl⟩
    case positive =>
      simp only [List.forall_mem_cons]
      exact ⟨h .connectTimeout rfl, h .requestTimeout rfl, h .maxConcurrency rfl, h .maxQueueSize rfl,
        h .maxBodySize rfl, List.forall_mem_nil _⟩
    case key => exact h .adminKey
  · intro h r
    obtain ⟨ho, hh⟩ := exists_ofConfig_eq_ok_iff.mp h.server
    have haddr := h.addresses
    simp only [exists_address_eq_ok_iff] at haddr
    obtain ⟨hm, ha, hl⟩ := forall_mem_addresses.mp haddr
    have hp := h.positive
    simp only [List.forall_mem_cons] at hp
    obtain ⟨hct, hrt, hmc, hmq, hmb, -⟩ := hp
    cases r with
    | listenerAddress => exact fun _ => hl
    | origin => exact fun _ => ho
    | connectTimeout => exact fun _ => hct
    | requestTimeout => exact fun _ => hrt
    | maxConcurrency => exact fun _ => hmc
    | maxQueueSize => exact fun _ => hmq
    | headerName => exact fun _ => hh
    | maxBodySize => exact fun _ => hmb
    | metricsAddress => exact hm
    | adminAddress => exact ha
    | adminKey => exact h.key

section

variable {wrap : BindProblem → Problem} {v : String} {taken others : List Socket} {enabled : Bool} {p : Problem}

theorem listen_eq_error (h : listen m wrap v taken = .error p) :
    p = .address v ∧ Socket.parse? v = none ∨ ∃ b, p = wrap b := by
  cases hv : Socket.parse? v with
  | none =>
    simp only [listen, address, hv, Except.error.injEq] at h
    exact .inl ⟨h.symm, rfl⟩
  | some a =>
    simp only [listen, address, hv] at h
    obtain ⟨b, -, rfl⟩ := mapError_eq_error_iff.mp h
    exact .inr ⟨b, rfl⟩

theorem listen_eq_ok (h : listen m wrap v taken = .ok others) : ∃ a, address v = .ok a := by
  cases ha : address v with
  | error p => simp [listen, ha] at h
  | ok a => exact ⟨a, rfl⟩

theorem listenIf_eq_error (h : listenIf enabled m wrap v taken = .error p) :
    enabled = true ∧ (p = .address v ∧ Socket.parse? v = none ∨ ∃ b, p = wrap b) := by
  cases enabled with
  | false => cases h
  | true => exact ⟨rfl, listen_eq_error h⟩

theorem listenIf_eq_ok (h : listenIf enabled m wrap v taken = .ok others) : enabled = true → ∃ a, address v = .ok a := by
  rintro rfl
  exact listen_eq_ok h

/-- Why a start fails: an address cannot be read, the gateway cannot be built, or something cannot be listened on. -/
inductive Fails (c : Config) : Problem → Prop where
  | address {v : String} : v ∈ addresses c → Socket.parse? v = none → Fails c (.address v)
  | server {q : Server.Problem} : Server.ofConfig c = .error q → Fails c (.server q)
  | metrics (b : BindProblem) : Fails c (.metrics b)
  | listener (b : BindProblem) : Fails c (.listener b)

theorem fails_of_run (h : run m c = .error p) : Fails c p := by
  have hread (v : String) (wrap : BindProblem → Problem) (hv : v ∈ addresses c) (hw : ∀ b, Fails c (wrap b))
      (hp : p = .address v ∧ Socket.parse? v = none ∨ ∃ b, p = wrap b) : Fails c p := by
    obtain ⟨rfl, hn⟩ | ⟨b, rfl⟩ := hp
    · exact .address hv hn
    · exact hw b
  obtain hm | ⟨taken, -, h⟩ := bind_eq_error_iff.mp h
  · obtain ⟨he, hp⟩ := listenIf_eq_error hm
    exact hread _ _ (by simp [addresses, he]) .metrics hp
  obtain hs | ⟨server, -, h⟩ := bind_eq_error_iff.mp h
  · obtain ⟨q, hq, rfl⟩ := mapError_eq_error_iff.mp hs
    exact .server hq
  obtain ha | ⟨taken, -, h⟩ := bind_eq_error_iff.mp h
  · obtain ⟨he, hp⟩ := listenIf_eq_error ha
    exact hread _ _ (by simp [addresses, he]) .listener hp
  obtain hl | ⟨taken, -, h⟩ := bind_eq_error_iff.mp h
  · exact hread _ _ (by simp [addresses]) .listener (listen_eq_error hl)
  · cases h

theorem reads_of_run {s : Service} (h : run m c = .ok s) :
    Server.ofConfig c = .ok s.server ∧ ∀ v ∈ addresses c, ∃ a, address v = .ok a := by
  obtain ⟨taken, hm, h⟩ := bind_eq_ok_iff.mp h
  obtain ⟨server, hs, h⟩ := bind_eq_ok_iff.mp h
  obtain ⟨taken, ha, h⟩ := bind_eq_ok_iff.mp h
  obtain ⟨taken, hl, h⟩ := bind_eq_ok_iff.mp h
  cases h
  exact ⟨mapError_eq_ok_iff.mp hs, forall_mem_addresses.mpr ⟨listenIf_eq_ok hm, listenIf_eq_ok ha, listen_eq_ok hl⟩⟩

end

/-- The faults that a configuration has no part in. -/
inductive Fault.IsSurrounding (secure : Except CallError Unit) : Fault → Prop where
  | metrics (b : BindProblem) : IsSurrounding secure (.startup (.metrics b))
  | listener (b : BindProblem) : IsSurrounding secure (.startup (.listener b))
  | encryption {e : CallError} : secure = .error e → IsSurrounding secure (.encryption e)

theorem Usable.isSurrounding (h : Usable c) {secure : Except CallError Unit} {f : Fault}
    (hf : runSecured secure m c = .error f) : f.IsSurrounding secure := by
  have hrun {p : Problem} (hp : Fails c p) : (Fault.startup p).IsSurrounding secure := by
    cases hp with
    | @address v hv hn =>
      obtain ⟨a, ha⟩ := exists_address_eq_ok_iff.mp (h.addresses v hv)
      exact nomatch hn.symm.trans ha
    | server hq =>
      obtain ⟨s, hs⟩ := h.server
      exact nomatch hq.symm.trans hs
    | metrics b => exact .metrics b
    | listener b => exact .listener b
  obtain hm | ⟨taken, -, hf⟩ := bind_eq_error_iff.mp hf
  · obtain ⟨p, hp, rfl⟩ := mapError_eq_error_iff.mp hm
    have hr : run m c = .error p := bind_eq_error_iff.mpr (.inl hp)
    exact hrun (fails_of_run hr)
  obtain hs | ⟨-, -, hf⟩ := bind_eq_error_iff.mp hf
  · obtain ⟨e, he, rfl⟩ := mapError_eq_error_iff.mp hs
    exact .encryption he
  · obtain ⟨p, hp, rfl⟩ := mapError_eq_error_iff.mp hf
    exact hrun (fails_of_run hp)

/-- A configuration has no problem exactly if it can be used: the gateway can be built from it, and every address that a
start reads can be read. Where it is accepted, a start fails through its surroundings only, and where it is not, its
problems are told one by one. -/
theorem problems_foretell_start (c : Config) :
    (c.problems = [] ↔ Usable c) ∧
      (∀ m s, run m c = .ok s →
        Server.ofConfig c = .ok s.server ∧ ∀ v ∈ addresses c, ∃ a, address v = .ok a) ∧
      (∀ m p, run m c = .error p → Fails c p) ∧
      (c.problems = [] → ∀ secure m f, runSecured secure m c = .error f → f.IsSurrounding secure) ∧
      Reported c := by
  have hiff : c.problems = [] ↔ Usable c := problems_eq_nil_iff.trans forall_holds_iff
  exact ⟨hiff, fun m s => reads_of_run, fun m p => fails_of_run, fun h secure m f => (hiff.mp h).isSurrounding,
    reported c⟩

def muddled : Config where
  listener := ⟨"not-an-addr"⟩
  forwarding := { origin := "http://up.test" }
  queue := { maxConcurrency := 0 }
  auth := { headerName := "bad header" }
  admin := { enabled := true }

def reserved : Config where
  listener := ⟨"0.0.0.0:80"⟩
  forwarding := { origin := "http://up.test" }

theorem problems_foretell_start_muddled :
    muddled.problems = [.address "listener.bind_address" "not-an-addr", .zero "queue.max_concurrency",
      .headerName "bad header", .adminKey] ∧ ¬Usable muddled ∧
    (Rule.listenerAddress.put muddled "[::1]:80").problems =
      [.zero "queue.max_concurrency", .headerName "bad header", .adminKey] ∧
    Usable reserved ∧ ∃ f, runSecured (.ok ()) .isolated reserved = .error f ∧ f = .startup (.listener .permission) ∧
      f.IsSurrounding (.ok ()) := by
  have hmuddled : muddled.problems = [.address "listener.bind_address" "not-an-addr", .zero "queue.max_concurrency",
      .headerName "bad header", .adminKey] := by decide +kernel
  have hreserved : reserved.problems = [] := by decide +kernel
  have hfault : runSecured (.ok ()) .isolated reserved = .error (.startup (.listener .permission)) := by rfl
  have hsock : Rule.listenerAddress.Accepts "[::1]:80" := ⟨.v6 [0, 0, 0, 0, 0, 0, 0, 1] 0 80, by decide +kernel⟩
  obtain ⟨hm, -, -, -, hr⟩ := problems_foretell_start muddled
  obtain ⟨hu, -, -, hs, -⟩ := problems_foretell_start reserved
  refine ⟨hmuddled, fun h => ?_, ?_, hu.mp hreserved, _, hfault, rfl, hs hreserved _ _ _ hfault⟩
  · rw [hm.mpr h] at hmuddled
    cases hmuddled
  · rw [hr.mended .listenerAddress "[::1]:80" hsock, hmuddled]
    decide

end Turnstile.Lifecycle.Startup
