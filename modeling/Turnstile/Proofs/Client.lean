import Mathlib.Data.List.DropRight
import Mathlib.Data.List.GetD
import Turnstile.Client
import Turnstile.Config.File
import Turnstile.Proofs.Gate
import Turnstile.Proofs.Server.Destination
import Turnstile.Proofs.Server.Precedence

namespace Turnstile

open Digest

namespace Http

variable {s : Bytes}

def HasBlankEnd (s : Bytes) : Prop := ∃ b, (s.head? = some b ∨ s.getLast? = some b) ∧ isBlank b = true

theorem dropWhile_isBlank_eq_self_iff : s.dropWhile isBlank = s ↔ ∀ b, s.head? = some b → isBlank b = false := by
  cases s with
  | nil => simp
  | cons a s => simp [List.dropWhile_eq_self_iff]

theorem dropEnd_isBlank_eq_self_iff :
    Bytes.dropEnd isBlank s = s ↔ ∀ b, s.getLast? = some b → isBlank b = false := by
  rw [show Bytes.dropEnd isBlank s = s.rdropWhile isBlank from rfl, List.rdropWhile_eq_self_iff]
  constructor
  · intro h b hb
    obtain ⟨hne, rfl⟩ := List.mem_getLast?_eq_getLast hb
    simpa using h hne
  · intro h hne
    simpa using h _ (List.getLast?_eq_getLast_of_ne_nil hne)

theorem trimmed_eq_self_iff : trimmed s = s ↔ ¬HasBlankEnd s := by
  have hends : ¬HasBlankEnd s ↔ s.dropWhile isBlank = s ∧ Bytes.dropEnd isBlank s = s := by
    rw [dropWhile_isBlank_eq_self_iff, dropEnd_isBlank_eq_self_iff]
    constructor
    · intro h
      exact ⟨fun b hb => eq_false_of_ne_true fun ht => h ⟨b, .inl hb, ht⟩,
        fun b hb => eq_false_of_ne_true fun ht => h ⟨b, .inr hb, ht⟩⟩
    · rintro ⟨hhead, hlast⟩ ⟨b, hb | hb, ht⟩
      · exact absurd ((hhead b hb).symm.trans ht) Bool.false_ne_true
      · exact absurd ((hlast b hb).symm.trans ht) Bool.false_ne_true
  rw [hends]
  constructor
  · intro h
    have hfront : s.dropWhile isBlank = s := by
      have hle : s.length ≤ (s.dropWhile isBlank).length := by
        conv_lhs => rw [← h]
        exact (List.rdropWhile_prefix isBlank _).length_le
      exact (List.dropWhile_suffix isBlank).eq_of_length_le hle
    exact ⟨hfront, by rwa [trimmed, hfront] at h⟩
  · rintro ⟨hfront, hback⟩
    rw [trimmed, hfront, hback]

theorem Headers.first?_arriving (h : Headers) (name : HeaderName) :
    h.arriving.first? name = (h.first? name).map trimmed := by
  induction h with
  | nil => rfl
  | cons f h ih =>
    by_cases hn : f.1 = name
    · simp [arriving, first?, hn]
    · simpa [arriving, first?, hn] using ih

theorem Headers.first?_append_of_some {h : Headers} {name : HeaderName} {v : Bytes} (hf : h.first? name = some v)
    (more : Headers) : first? (h ++ more) name = some v := by
  obtain ⟨f, hfind, rfl⟩ := Option.map_eq_some_iff.mp hf
  simp [first?, List.find?_append, hfind]

theorem Headers.first?_putIfAbsent_of_some {h : Headers} {name other : HeaderName} {v w : Bytes}
    (hf : h.first? other = some w) : (h.putIfAbsent name v).first? other = some w := by
  rw [first?_eq_head?_all] at hf ⊢
  rw [all_putIfAbsent]
  split
  · next he =>
    obtain ⟨rfl, hnone⟩ := he
    simp [hnone] at hf
  · exact hf

end Http

namespace Text.Base64

theorem isBlank_digit (n : Nat) : Http.isBlank (digit n) = false := by
  have hall : (alphabet.all fun c => !Http.isBlank (UInt8.ofNat c.toNat)) = true := by decide
  by_cases hn : n < alphabet.length
  · rw [digit, List.getD_eq_getElem _ _ hn]
    simpa using List.all_eq_true.mp hall _ (List.getElem_mem hn)
  · rw [digit, List.getD_eq_default _ _ (Nat.le_of_not_lt hn)]
    rfl

theorem isBlank_of_mem_encode {s : Bytes} {b : UInt8} (h : b ∈ encode s) : Http.isBlank b = false := by
  have hpad : Http.isBlank pad = false := rfl
  induction s using encode.induct with
  | case1 => cases h
  | case2 a | case3 a c =>
    simp only [encode, List.mem_cons, List.not_mem_nil, or_false] at h
    obtain rfl | rfl | rfl | rfl := h <;> first | exact isBlank_digit _ | exact hpad
  | case4 a c d rest ih =>
    simp only [encode, List.mem_cons] at h
    obtain rfl | rfl | rfl | rfl | h := h
    · exact isBlank_digit _
    · exact isBlank_digit _
    · exact isBlank_digit _
    · exact isBlank_digit _
    · exact ih h

theorem encode_ne_nil {s : Bytes} (h : s ≠ []) : encode s ≠ [] := by
  induction s using encode.induct with
  | case1 => exact absurd rfl h
  | case2 | case3 | case4 => simp [encode]

end Text.Base64

namespace Config

theorem problems_of_read {text : String} {outside : Option String} {c : Config} (h : read text outside = .ok c) :
    c.problems = [] := by
  unfold read at h
  split at h
  · cases h
  · dsimp only at h
    split at h
    · next hp =>
      cases h
      exact List.isEmpty_iff.mp hp
    · cases h

end Config

namespace Client

open Http

variable {c : Client} {u : Url} {m : Method} {path : String} {content : Option Document} {call : Call}

def covering? (c : Client) (u : Url) : Option Bytes :=
  if HeaderName.parse? (Bytes.ofString c.header) = some authorization then
    (credentials? u).map fun p => basicToken p.1 p.2
  else none

def presented (c : Client) (u : Url) : Bytes := (c.covering? u).getD (trimmed (Bytes.ofString c.secret))

/-- Nothing of the secret is lost on the way, and nothing else is in its place. -/
def Intact (c : Client) (u : Url) : Prop :=
  c.covering? u = none ∧ ¬HasBlankEnd (Bytes.ofString c.secret) ∨ c.covering? u = some (Bytes.ofString c.secret)

/-- The fields of a call as the gate has them: with what the connection adds, and with an identifier. -/
def Call.received (call : Call) (more : Headers) (fresh : Bytes) : Headers :=
  Server.RequestId.assign fresh (Headers.arriving (call.headers ++ more))

theorem trimmed_basicToken (name : Bytes) (password : Option Bytes) :
    trimmed (basicToken name password) = basicToken name password := by
  have hne : Text.Base64.encode (name ++ 0x3A :: password.getD []) ≠ [] := Text.Base64.encode_ne_nil (by simp)
  rw [trimmed_eq_self_iff]
  rintro ⟨b, hb | hb, ht⟩
  · obtain rfl : 0x42 = b := Option.some.inj hb
    cases ht
  · rw [basicToken, List.getLast?_append_of_ne_nil _ hne] at hb
    rw [Text.Base64.isBlank_of_mem_encode (List.mem_of_getLast? hb)] at ht
    cases ht

theorem first?_of_call? {name : HeaderName} (hn : HeaderName.parse? (Bytes.ofString c.header) = some name)
    (h : c.call? m path content = some call) :
    ∃ u, target? (baseOf c.gateway ++ path) = some u ∧
      call.headers.first? name = some ((c.covering? u).getD (Bytes.ofString c.secret)) := by
  simp only [call?, bind, Option.bind_eq_some_iff] at h
  obtain ⟨u, hu, field, hfield, h⟩ := h
  have hf : field = (name, Bytes.ofString c.secret) := by
    simp only [secretField?, hn, Option.ite_none_right_eq_some, Option.some.injEq] at hfield
    exact hfield.2.symm
  subst hf
  refine ⟨u, hu, ?_⟩
  have hfirst : Headers.first? ((authority u).1 ++ [(name, Bytes.ofString c.secret)]) name =
      some ((c.covering? u).getD (Bytes.ofString c.secret)) := by
    cases hcred : credentials? u with
    | none => simp [authority, covering?, hcred, Headers.first?]
    | some p =>
      by_cases ha : name = authorization
      · simp [authority, covering?, hcred, hn, ha, Headers.first?]
      · simp [authority, covering?, hcred, hn, ha, Ne.symm ha, Headers.first?]
  cases content with
  | none =>
    cases h
    exact hfirst
  | some d =>
    cases h
    exact Headers.first?_putIfAbsent_of_some hfirst

theorem trimmed_covering {t : Bytes} (h : c.covering? u = some t) : trimmed t = t := by
  simp only [covering?, Option.ite_none_right_eq_some, Option.map_eq_some_iff] at h
  obtain ⟨-, p, -, rfl⟩ := h
  exact trimmed_basicToken _ _

theorem first?_received {name : HeaderName} (hn : HeaderName.parse? (Bytes.ofString c.header) = some name)
    (h : c.call? m path content = some call) :
    ∃ u, target? (baseOf c.gateway ++ path) = some u ∧
      ∀ more fresh, (call.received more fresh).first? name = some (c.presented u) := by
  obtain ⟨u, hu, hf⟩ := first?_of_call? hn h
  refine ⟨u, hu, fun more fresh => Headers.first?_putIfAbsent_of_some ?_⟩
  rw [Headers.first?_arriving, Headers.first?_append_of_some hf, Option.map_some, presented]
  cases hc : c.covering? u with
  | none => rfl
  | some t => exact congrArg some (trimmed_covering hc)

theorem presented_eq_secret_iff : c.presented u = Bytes.ofString c.secret ↔ c.Intact u := by
  cases hc : c.covering? u with
  | none => simp [presented, Intact, hc, trimmed_eq_self_iff]
  | some t => simp [presented, Intact, hc]

theorem authorizes_received_iff {config : Config} (hc : config.problems = [])
    (hs : config.auth.secret = some c.secret) (hne : c.secret ≠ "") (hheader : c.header = config.auth.headerName)
    (hcall : c.call? m path content = some call) :
    ∃ server u, Server.ofConfig config = .ok server ∧ target? (baseOf c.gateway ++ path) = some u ∧
      ∀ more fresh, (call.received more fresh).first? server.gate.header = some (c.presented u) ∧
        (server.gate.authorizes (call.received more fresh) = true ↔
          Sha256.digest (c.presented u) = Sha256.digest (Bytes.ofString c.secret)) := by
  obtain ⟨origin, name, -, hn, hserver⟩ := Server.exists_server_of_valid hc
  rw [← hheader] at hn
  obtain ⟨u, hu, hfirst⟩ := first?_received hn hcall
  refine ⟨_, u, hserver, hu, fun more fresh => ⟨hfirst more fresh, ?_⟩⟩
  rw [Gate.authorizes, hfirst more fresh, hs]
  exact Credential.verify_ofSecret hne _

/-- For every configuration that is accepted with a secret, and for every client with that secret and its header: if a
call can be made at all, then what its URL and its secret make of the first value at the gate is `presented`, whatever
else the connection adds. The call passes if the secret is intact, and it does not pass otherwise unless there is a
collision. -/
theorem authorized_iff_intact {text : String} {outside : Option String} {config : Config} {s : String}
    (hread : Config.read text outside = .ok config) (hs : config.auth.secret = some s) (hne : s ≠ "")
    (hsecret : c.secret = s) (hheader : c.header = config.auth.headerName)
    (hcall : c.call? m path content = some call) :
    ∃ server u, Server.ofConfig config = .ok server ∧ target? (baseOf c.gateway ++ path) = some u ∧
      ∀ more fresh, (call.received more fresh).first? server.gate.header = some (c.presented u) ∧
        (c.Intact u → server.gate.authorizes (call.received more fresh) = true) ∧
        (Credential.Collisionless (c.presented u) (Bytes.ofString s) →
          server.gate.authorizes (call.received more fresh) = true → c.Intact u) := by
  subst hsecret
  obtain ⟨server, u, hserver, hu, hgate⟩ :=
    authorizes_received_iff (Config.problems_of_read hread) hs hne hheader hcall
  refine ⟨server, u, hserver, hu, fun more fresh => ?_⟩
  obtain ⟨hfirst, hiff⟩ := hgate more fresh
  rw [hiff, ← presented_eq_secret_iff]
  exact ⟨hfirst, fun h => congrArg _ h, fun hcollisionless h => hcollisionless h⟩

def file : String := "[upstream]\norigin = \"http://up.test\"\n"

def config (s : String) : Config := { forwarding := { origin := "http://up.test" }, auth := { secret := some s } }

def sharing (s : String) : Client := { gateway := "http://gate.test/", secret := s }

theorem covering?_sharing (s : String) (u : Url) : (sharing s).covering? u = none := by
  have hne : HeaderName.parse? (Bytes.ofString "x-proxy-secret") ≠ some authorization := by decide +kernel
  exact if_neg hne

theorem presented_padded (u : Url) : (sharing " s ").presented u = [0x73] := by
  rw [presented, covering?_sharing]
  decide +kernel

theorem digest_padded : Sha256.digest [0x73] ≠ Sha256.digest (Bytes.ofString " s ") := by decide +kernel

theorem authorized_iff_intact_plain :
    (∃ call server, (sharing "s").call? .get "/a" none = some call ∧ Server.ofConfig (config "s") = .ok server ∧
      server.gate.authorizes (call.received [] [0x69]) = true) ∧
    ∃ call server, (sharing " s ").call? .get "/a" none = some call ∧
      Server.ofConfig (config " s ") = .ok server ∧ server.gate.authorizes (call.received [] [0x69]) = false := by
  constructor
  · have hread : Config.read file (some "s") = .ok (config "s") := eq_ok_of_toOption (by decide +kernel)
    obtain ⟨call, hcall⟩ := Option.isSome_iff_exists.mp
      (show ((sharing "s").call? .get "/a" none).isSome = true by decide +kernel)
    obtain ⟨server, u, hserver, -, hgate⟩ := authorized_iff_intact hread rfl (by decide) rfl rfl hcall
    have hends : ¬HasBlankEnd (Bytes.ofString "s") := by
      rw [← trimmed_eq_self_iff]
      decide +kernel
    exact ⟨call, server, hcall, hserver, (hgate [] [0x69]).2.1 (.inl ⟨covering?_sharing "s" u, hends⟩)⟩
  · have hread : Config.read file (some " s ") = .ok (config " s ") := eq_ok_of_toOption (by decide +kernel)
    obtain ⟨call, hcall⟩ := Option.isSome_iff_exists.mp
      (show ((sharing " s ").call? .get "/a" none).isSome = true by decide +kernel)
    obtain ⟨server, u, hserver, -, hgate⟩ := authorized_iff_intact hread rfl (by decide) rfl rfl hcall
    have hintact : ¬(sharing " s ").Intact u := by
      rw [← presented_eq_secret_iff, presented_padded]
      decide +kernel
    have hcollisionless : Credential.Collisionless ((sharing " s ").presented u) (Bytes.ofString " s ") := by
      rw [presented_padded]
      exact fun hdigest => absurd hdigest digest_padded
    refine ⟨call, server, hcall, hserver, eq_false_of_ne_true fun h => hintact ?_⟩
    exact (hgate [] [0x69]).2.2 hcollisionless h

/-- A secret with blanks at its ends is accepted, and a client that has it is refused. -/
theorem padded_secret_refused :
    ¬∀ (text : String) (outside : Option String) (config : Config) (server : Server) (s : String) (c : Client)
      (m : Method) (path : String) (content : Option Document) (call : Call),
      Config.read text outside = .ok config → config.auth.secret = some s → s ≠ "" →
      Server.ofConfig config = .ok server → c.secret = s → c.header = config.auth.headerName →
      c.call? m path content = some call → server.gate.authorizes (call.received [] [0x69]) = true := by
  intro h
  have hread : Config.read file (some " s ") = .ok (config " s ") := eq_ok_of_toOption (by decide +kernel)
  obtain ⟨call, hcall⟩ := Option.isSome_iff_exists.mp
    (show ((sharing " s ").call? .get "/a" none).isSome = true by decide +kernel)
  obtain ⟨server, u, hserver, -, hgate⟩ :=
    authorizes_received_iff (c := sharing " s ") (Config.problems_of_read hread) rfl (by decide) rfl hcall
  have hpasses := h _ _ _ server _ _ _ _ _ call hread rfl (by decide) hserver rfl rfl hcall
  rw [(hgate [] [0x69]).2, presented_padded] at hpasses
  exact digest_padded hpasses

end Client

end Turnstile
