import Turnstile.Gate
import Turnstile.Proofs.Http.Hop

namespace Turnstile

open Digest Http

namespace Http.Headers

variable {spelling : Bytes} {name : HeaderName} {fields : List (Bytes × Bytes)} {headers : Headers}

def presented? (spelling : Bytes) (fields : List (Bytes × Bytes)) : Option Bytes :=
  (fields.find? fun f => Bytes.lower f.1 = Bytes.lower spelling).map (·.2)

theorem first?_of_parse (hn : HeaderName.parse? spelling = some name) (h : parse fields = .ok headers) :
    headers.first? name = presented? spelling fields := by
  obtain ⟨-, rfl⟩ := HeaderName.parse?_eq_some_iff.mp hn
  induction fields generalizing headers with
  | nil =>
    cases h
    rfl
  | cons f rest ih =>
    obtain ⟨n, v⟩ := f
    rw [parse] at h
    split at h
    · cases h
    next key hkey =>
    obtain ⟨-, rfl⟩ := HeaderName.parse?_eq_some_iff.mp hkey
    split at h
    · cases hrest : parse rest with
      | error problem =>
        rw [hrest] at h
        cases h
      | ok others =>
        rw [hrest] at h
        cases h
        have ih := ih hrest
        by_cases hs : Bytes.lower n = Bytes.lower spelling
        · simp [first?, presented?, hs]
        · simpa [first?, presented?, hs] using ih
    · cases h

end Http.Headers

namespace Credential

variable {secret : Option String} {presented : Option Bytes}

/-- No two of these texts have one digest. -/
def Collisionless (presented secret : Bytes) : Prop :=
  Sha256.digest presented = Sha256.digest secret → presented = secret

theorem verify_eq_true_iff : (ofSecret secret).verify presented = true ↔
    ∃ s v, secret = some s ∧ s ≠ "" ∧ presented = some v ∧ Sha256.digest v = Sha256.digest (Bytes.ofString s) := by
  cases secret with
  | none => simp [ofSecret, verify]
  | some s =>
    by_cases hs : s = ""
    · simp [ofSecret, verify, hs]
    · have hsome : (some s).filter (fun s => !s.isEmpty) = some s := by simp [hs]
      cases presented with
      | none => simp [ofSecret, verify, hsome]
      | some v => simp [ofSecret, verify, hsome, hs]

theorem verify_ofSecret {s : String} (hs : s ≠ "") (presented : Bytes) :
    (ofSecret (some s)).verify (some presented) = true ↔
      Sha256.digest presented = Sha256.digest (Bytes.ofString s) := by
  simp [verify_eq_true_iff, hs]

end Credential

namespace Gate

open Headers

variable {g : Gate} {secret : Option String} {spelling : Bytes} {name : HeaderName} {fields : List (Bytes × Bytes)}
  {headers : Headers}

/-- What a gate with this secret, for the header that is spelled like this, decides of a request with these fields. -/
structure Decides (g : Gate) (secret : Option String) (spelling : Bytes) (fields : List (Bytes × Bytes))
    (headers : Headers) : Prop where
  exact : (∀ s v, secret = some s → presented? spelling fields = some v →
      Credential.Collisionless v (Bytes.ofString s)) →
    (g.authorizes headers = true ↔
      ∃ s, secret = some s ∧ s ≠ "" ∧ presented? spelling fields = some (Bytes.ofString s))
  /-- Without a secret nobody passes, whatever the digest of the credential is. -/
  unset : secret = none ∨ secret = some "" → ∀ h : Headers, g.authorizes h = false
  absent : presented? spelling fields = none → g.authorizes headers = false
  equal : ∀ s, secret = some s → s ≠ "" → presented? spelling fields = some (Bytes.ofString s) →
    g.authorizes headers = true
  /-- The first value settles it: another request with the same first value is answered the same. -/
  first : ∀ others otherHeaders, parse others = .ok otherHeaders →
    presented? spelling others = presented? spelling fields → g.authorizes otherHeaders = g.authorizes headers

theorem authorizes_ofSecret_iff (h : Headers) : Gate.authorizes ⟨name, .ofSecret secret⟩ h = true ↔
    ∃ s v, secret = some s ∧ s ≠ "" ∧ h.first? name = some v ∧
      Sha256.digest v = Sha256.digest (Bytes.ofString s) :=
  Credential.verify_eq_true_iff

theorem authorizes_eq_false_of_unset (hs : secret = none ∨ secret = some "") (h : Headers) :
    Gate.authorizes ⟨name, .ofSecret secret⟩ h = false := by
  rw [← Bool.not_eq_true, authorizes_ofSecret_iff]
  rintro ⟨s, -, rfl, hne, -⟩
  obtain hs | hs := hs
  · cases hs
  · exact hne (Option.some.inj hs)

/-- For every spelling of the header, every secret and every request: the gate decides by the first value alone. It is
equality with a secret that is there and not empty, up to collisions of the digest, and these never let anybody pass
where there is no secret or no value. -/
theorem decides_by_first_value (hn : HeaderName.parse? spelling = some name) (secret : Option String)
    (hh : parse fields = .ok headers) : Decides ⟨name, .ofSecret secret⟩ secret spelling fields headers := by
  have hfirst := first?_of_parse hn hh
  constructor
  case exact =>
    intro hcollisionless
    rw [authorizes_ofSecret_iff, hfirst]
    constructor
    · rintro ⟨s, v, hs, hne, hv, hdigest⟩
      exact ⟨s, hs, hne, by rw [hv, hcollisionless s v hs hv hdigest]⟩
    · rintro ⟨s, hs, hne, hv⟩
      exact ⟨s, _, hs, hne, hv, rfl⟩
  case unset => exact authorizes_eq_false_of_unset
  case absent =>
    intro hnone
    rw [← Bool.not_eq_true, authorizes_ofSecret_iff, hfirst, hnone]
    rintro ⟨s, v, -, -, hv, -⟩
    cases hv
  case equal =>
    intro s hs hne hv
    exact (authorizes_ofSecret_iff headers).mpr ⟨s, _, hs, hne, hfirst.trans hv, rfl⟩
  case first =>
    intro others otherHeaders ho hsame
    rw [authorizes, authorizes, first?_of_parse hn ho, hsame, ← hfirst]

def twice : List (Bytes × Bytes) :=
  [(Bytes.ofString "x-PROXY-secret", Bytes.ofString "s"), (Bytes.ofString "X-Proxy-Secret", Bytes.ofString "t")]

def twiceRead : Headers :=
  [(⟨Bytes.ofString "x-proxy-secret"⟩, Bytes.ofString "s"), (⟨Bytes.ofString "x-proxy-secret"⟩, Bytes.ofString "t")]

theorem decides_by_first_value_twice :
    Gate.authorizes ⟨⟨Bytes.ofString "x-proxy-secret"⟩, .ofSecret (some "s")⟩ twiceRead = true ∧
    Gate.authorizes ⟨⟨Bytes.ofString "x-proxy-secret"⟩, .ofSecret (some "t")⟩ twiceRead = false ∧
    Gate.authorizes ⟨⟨Bytes.ofString "x-proxy-secret"⟩, .ofSecret none⟩ twiceRead = false := by
  have hn : HeaderName.parse? (Bytes.ofString "X-Proxy-Secret") = some ⟨Bytes.ofString "x-proxy-secret"⟩ := by
    decide +kernel
  have hh : parse twice = .ok twiceRead := by decide +kernel
  have hfirst : presented? (Bytes.ofString "X-Proxy-Secret") twice = some (Bytes.ofString "s") := by decide +kernel
  have hcollisionless : Credential.Collisionless (Bytes.ofString "s") (Bytes.ofString "t") := by
    have hne : Sha256.digest (Bytes.ofString "s") ≠ Sha256.digest (Bytes.ofString "t") := by decide +kernel
    exact fun hdigest => absurd hdigest hne
  refine ⟨?_, ?_, ?_⟩
  · exact (decides_by_first_value hn (some "s") hh).equal "s" rfl (by decide) hfirst
  · have hexact := (decides_by_first_value hn (some "t") hh).exact fun s v hs hv => by
      obtain rfl := Option.some.inj hs
      obtain rfl := Option.some.inj (hfirst.symm.trans hv)
      exact hcollisionless
    rw [← Bool.not_eq_true, hexact, hfirst]
    rintro ⟨s, hs, -, hv⟩
    obtain rfl := Option.some.inj hs
    exact absurd hv (by decide +kernel)
  · exact (decides_by_first_value hn none hh).unset (.inl rfl) twiceRead

end Gate

end Turnstile
