import Turnstile.Config.Validation

namespace Turnstile.Config

def Problem.field : Problem → String
  | address field _ => field
  | origin _ => "upstream.origin"
  | zero field => field
  | headerName _ => "auth.header_name"
  | adminKey => "admin.api_key"

theorem append_eq_of_eq {whole front back : String} (h : whole = front ++ back) (rest : String) :
    whole ++ rest = front ++ (back ++ rest) := by
  rw [h, String.append_assoc]

theorem Problem.exists_message_eq (p : Problem) : ∃ rest, p.message = p.field ++ rest := by
  cases p with
  | address name value => exact ⟨_, (append_eq_of_eq (append_eq_of_eq rfl value) "'")⟩
  | origin p =>
    cases p with
    | missing =>
      have h : "upstream.origin is required" = "upstream.origin" ++ " is required" := by simp
      exact ⟨_, h⟩
    | url | scheme | noHost | queryOrFragment =>
      have h : "upstream.origin: " = "upstream.origin" ++ ": " := by simp
      exact ⟨_, append_eq_of_eq h _⟩
  | zero name => exact ⟨_, rfl⟩
  | headerName value =>
    have h : "auth.header_name: invalid header name '" = "auth.header_name" ++ ": invalid header name '" := by simp
    exact ⟨_, append_eq_of_eq (append_eq_of_eq h value) "'"⟩
  | adminKey =>
    have h : "admin.api_key must be set when the admin API is enabled" =
        "admin.api_key" ++ " must be set when the admin API is enabled" := by simp
    exact ⟨_, h⟩

/-- The rules, in the order in which they are looked at. -/
inductive Rule where
  | listenerAddress
  | origin
  | connectTimeout
  | requestTimeout
  | maxConcurrency
  | maxQueueSize
  | headerName
  | maxBodySize
  | metricsAddress
  | adminAddress
  | adminKey
  deriving DecidableEq, Repr

namespace Rule

def all : List Rule :=
  [listenerAddress, origin, connectTimeout, requestTimeout, maxConcurrency, maxQueueSize, headerName, maxBodySize,
    metricsAddress, adminAddress, adminKey]

def field : Rule → String
  | listenerAddress => "listener.bind_address"
  | origin => "upstream.origin"
  | connectTimeout => "upstream.connect_timeout_secs"
  | requestTimeout => "upstream.request_timeout_secs"
  | maxConcurrency => "queue.max_concurrency"
  | maxQueueSize => "queue.max_queue_size"
  | headerName => "auth.header_name"
  | maxBodySize => "security.max_body_size"
  | metricsAddress => "observability.metrics_address"
  | adminAddress => "admin.bind_address"
  | adminKey => "admin.api_key"

theorem field_inj {r s : Rule} (h : r.field = s.field) : r = s := by
  cases r <;> cases s <;> first | rfl | simp [field] at h

def Value : Rule → Type
  | connectTimeout | requestTimeout | maxConcurrency | maxQueueSize | maxBodySize => UInt64
  | listenerAddress | origin | headerName | metricsAddress | adminAddress | adminKey => String

def value (c : Config) : (r : Rule) → r.Value
  | listenerAddress => c.listener.bindAddress
  | origin => c.forwarding.origin
  | connectTimeout => c.forwarding.connectTimeout
  | requestTimeout => c.forwarding.requestTimeout
  | maxConcurrency => c.queue.maxConcurrency
  | maxQueueSize => c.queue.maxQueueSize
  | headerName => c.auth.headerName
  | maxBodySize => c.security.maxBodySize
  | metricsAddress => c.observability.metricsAddress
  | adminAddress => c.admin.bindAddress
  | adminKey => c.admin.apiKey

/-- The configuration with another value in the field of a rule. -/
def put (c : Config) : (r : Rule) → r.Value → Config
  | listenerAddress, v => { c with listener := ⟨v⟩ }
  | origin, v => { c with forwarding := { c.forwarding with origin := v } }
  | connectTimeout, v => { c with forwarding := { c.forwarding with connectTimeout := v } }
  | requestTimeout, v => { c with forwarding := { c.forwarding with requestTimeout := v } }
  | maxConcurrency, v => { c with queue := { c.queue with maxConcurrency := v } }
  | maxQueueSize, v => { c with queue := { c.queue with maxQueueSize := v } }
  | headerName, v => { c with auth := { c.auth with headerName := v } }
  | maxBodySize, v => { c with security := ⟨v⟩ }
  | metricsAddress, v => { c with observability := { c.observability with metricsAddress := v } }
  | adminAddress, v => { c with admin := { c.admin with bindAddress := v } }
  | adminKey, v => { c with admin := { c.admin with apiKey := v } }

def isOn (c : Config) : Rule → Bool
  | metricsAddress => c.observability.metricsEnabled
  | adminAddress | adminKey => c.admin.enabled
  | _ => true

def Accepts : (r : Rule) → r.Value → Prop
  | listenerAddress, v | metricsAddress, v | adminAddress, v => ∃ a, Address.Socket.parse? v = some a
  | origin, v => ∃ u, Origin.parse v = .ok u
  | headerName, v => ∃ name, Http.HeaderName.parse? (Bytes.ofString v) = some name
  | connectTimeout, n | requestTimeout, n | maxConcurrency, n | maxQueueSize, n | maxBodySize, n => n ≠ (0 : UInt64)
  | adminKey, v => v ≠ ""

def check (r : Rule) : r.Value → List Problem :=
  match r with
  | listenerAddress => checkAddress listenerAddress.field
  | origin => checkOrigin
  | connectTimeout => checkPositive connectTimeout.field
  | requestTimeout => checkPositive requestTimeout.field
  | maxConcurrency => checkPositive maxConcurrency.field
  | maxQueueSize => checkPositive maxQueueSize.field
  | headerName => checkHeaderName
  | maxBodySize => checkPositive maxBodySize.field
  | metricsAddress => checkAddress metricsAddress.field
  | adminAddress => checkAddress adminAddress.field
  | adminKey => checkAdminKey

def found (c : Config) (r : Rule) : List Problem := onlyIf (r.isOn c) (r.check (r.value c))

def Holds (c : Config) (r : Rule) : Prop := r.isOn c = true → r.Accepts (r.value c)

/-- The two answers of a check: nothing, or one problem with the field. -/
inductive Checked (field : String) (accepted : Prop) : List Problem → Prop where
  | fine : accepted → Checked field accepted []
  | wrong {p : Problem} : ¬accepted → p.field = field → Checked field accepted [p]

theorem checked_address (field value : String) :
    Checked field (∃ a, Address.Socket.parse? value = some a) (checkAddress field value) := by
  rw [checkAddress]
  cases h : Address.Socket.parse? value with
  | none => exact .wrong (by simp) rfl
  | some a => exact .fine ⟨a, rfl⟩

theorem checked_origin (value : String) :
    Checked "upstream.origin" (∃ u, Origin.parse value = .ok u) (checkOrigin value) := by
  rw [checkOrigin]
  cases h : Origin.parse value with
  | error p => exact .wrong (by simp) rfl
  | ok u => exact .fine ⟨u, rfl⟩

theorem checked_positive (field : String) (n : UInt64) : Checked field (n ≠ 0) (checkPositive field n) := by
  rw [checkPositive]
  split
  · next h => exact .wrong (not_not_intro h) rfl
  · next h => exact .fine h

theorem checked_headerName (value : String) :
    Checked "auth.header_name" (∃ name, Http.HeaderName.parse? (Bytes.ofString value) = some name)
      (checkHeaderName value) := by
  rw [checkHeaderName]
  cases h : Http.HeaderName.parse? (Bytes.ofString value) with
  | none => exact .wrong (by simp) rfl
  | some name => exact .fine ⟨name, rfl⟩

theorem checked_adminKey (value : String) : Checked "admin.api_key" (value ≠ "") (checkAdminKey value) := by
  rw [checkAdminKey]
  split
  · next h => exact .wrong (not_not_intro (String.isEmpty_iff.mp h)) rfl
  · next h => exact .fine fun he => h (String.isEmpty_iff.mpr he)

theorem checked (r : Rule) (v : r.Value) : Checked r.field (r.Accepts v) (r.check v) := by
  cases r with
  | listenerAddress | metricsAddress | adminAddress => exact checked_address _ v
  | origin => exact checked_origin v
  | connectTimeout | requestTimeout | maxConcurrency | maxQueueSize | maxBodySize => exact checked_positive _ v
  | headerName => exact checked_headerName v
  | adminKey => exact checked_adminKey v

theorem checked_found (c : Config) (r : Rule) : Checked r.field (r.Holds c) (r.found c) := by
  rw [found, onlyIf]
  cases h : r.isOn c with
  | false => exact .fine fun hn => absurd (h.symm.trans hn) Bool.false_ne_true
  | true =>
    have hc := r.checked (r.value c)
    generalize r.check (r.value c) = ps at hc
    cases hc with
    | fine ha => exact .fine fun _ => ha
    | wrong hn hp => exact .wrong (fun hh => hn (hh h)) hp

theorem found_eq_nil_iff {c : Config} {r : Rule} : r.found c = [] ↔ r.Holds c := by
  have h := checked_found c r
  generalize r.found c = ps at h
  cases h with
  | fine hh => simp [hh]
  | wrong hn _ => simp [hn]

instance (c : Config) (r : Rule) : Decidable (r.Holds c) := decidable_of_iff _ found_eq_nil_iff

theorem map_field_found (c : Config) (r : Rule) :
    (r.found c).map Problem.field = if r.Holds c then [] else [r.field] := by
  have h := checked_found c r
  generalize r.found c = ps at h
  cases h with
  | fine hh => simp [hh]
  | wrong hn hp => simp [hn, hp]

theorem field_of_mem_found {c : Config} {r : Rule} {p : Problem} (hp : p ∈ r.found c) : p.field = r.field := by
  have h := checked_found c r
  generalize r.found c = ps at h hp
  cases h with
  | fine => cases hp
  | wrong _ hf => rwa [List.mem_singleton.mp hp]

theorem value_put (c : Config) (r : Rule) (v : r.Value) : r.value (r.put c v) = v := by
  cases r <;> rfl

theorem value_put_of_ne {r s : Rule} (h : s ≠ r) (c : Config) (v : r.Value) : s.value (r.put c v) = s.value c := by
  cases r <;> cases s <;> first | rfl | exact absurd rfl h

theorem isOn_put (c : Config) (r s : Rule) (v : r.Value) : s.isOn (r.put c v) = s.isOn c := by
  cases r <;> rfl

theorem found_put (c : Config) {r : Rule} {v : r.Value} (hv : r.Accepts v) (s : Rule) :
    s.found (r.put c v) = if s = r then [] else s.found c := by
  by_cases h : s = r
  · subst h
    rw [if_pos rfl, found_eq_nil_iff, Holds, value_put]
    exact fun _ => hv
  · rw [if_neg h, found, found, isOn_put, value_put_of_ne h]

end Rule

open Rule

theorem problems_eq_flatMap (c : Config) : c.problems = Rule.all.flatMap (Rule.found c) := by
  simp only [problems, all, List.flatMap_cons, List.flatMap_nil, List.append_nil, List.append_assoc]
  rfl

theorem problems_eq_nil_iff {c : Config} : c.problems = [] ↔ ∀ r : Rule, r.Holds c := by
  have hall (r : Rule) : r ∈ Rule.all := by cases r <;> decide
  simp [problems_eq_flatMap, found_eq_nil_iff, hall]

theorem map_field_problems (c : Config) :
    c.problems.map Problem.field = (Rule.all.filter fun r => ¬r.Holds c).map Rule.field := by
  rw [problems_eq_flatMap, List.map_flatMap]
  induction Rule.all with
  | nil => rfl
  | cons r rs ih =>
    rw [List.flatMap_cons, ih, map_field_found]
    by_cases h : r.Holds c <;> simp [h]

theorem filter_problems_eq (c : Config) (r : Rule) :
    (c.problems.filter fun p => p.field = r.field) = r.found c := by
  have hone (s : Rule) : (s.found c).filter (fun p => p.field = r.field) = if s = r then s.found c else [] := by
    split
    · next h =>
      apply List.filter_eq_self.mpr
      intro p hp
      exact decide_eq_true (h ▸ field_of_mem_found hp)
    · next h =>
      apply List.filter_eq_nil_iff.mpr
      intro p hp he
      exact h (field_inj ((field_of_mem_found hp).symm.trans (of_decide_eq_true he)))
  rw [problems_eq_flatMap, List.filter_flatMap]
  simp only [hone]
  cases r <;> simp [all]

theorem problems_put (c : Config) {r : Rule} {v : r.Value} (hv : r.Accepts v) :
    (r.put c v).problems = c.problems.filter fun p => p.field ≠ r.field := by
  rw [problems_eq_flatMap, problems_eq_flatMap, List.filter_flatMap]
  congr 1
  funext s
  rw [found_put c hv]
  split
  · next h =>
    apply Eq.symm
    apply List.filter_eq_nil_iff.mpr
    intro p hp
    simp [field_of_mem_found hp, h]
  · next h =>
    apply Eq.symm
    apply List.filter_eq_self.mpr
    intro p hp
    have hne : s.field ≠ r.field := fun he => h (field_inj he)
    simp [field_of_mem_found hp, hne]

/-- How the problems of a configuration are told: one for each rule that does not hold, in the order of the rules, by the
name of its field first. It depends on that field and on the switch of its rule alone, and putting the field right takes
it away and nothing else. -/
structure Reported (c : Config) : Prop where
  inOrder : c.problems.map Problem.field = (Rule.all.filter fun r => ¬r.Holds c).map Rule.field
  named : ∀ p ∈ c.problems, ∃ rest, p.message = p.field ++ rest
  own : ∀ (r : Rule) (d : Config), r.isOn d = r.isOn c → r.value d = r.value c →
    (d.problems.filter fun p => p.field = r.field) = c.problems.filter fun p => p.field = r.field
  mended : ∀ (r : Rule) (v : r.Value), r.Accepts v →
    (r.put c v).problems = c.problems.filter fun p => p.field ≠ r.field

theorem reported (c : Config) : Reported c := by
  constructor
  case inOrder => exact map_field_problems c
  case named => exact fun p _ => p.exists_message_eq
  case own =>
    intro r d hon hv
    rw [filter_problems_eq, filter_problems_eq, found, found, hon, hv]
  case mended => exact fun r v hv => problems_put c hv

end Turnstile.Config
