import Turnstile.Config.File
import Turnstile.Proofs.Config.Rules
import Turnstile.Proofs.Text.Utf8

namespace Turnstile.Config

variable {text : String} {outside : Option String} {environment : Option Bytes} {c : Config}

def setSecret (c : Config) (secret : Option String) : Config := { c with auth := { c.auth with secret } }

/-- What the environment supplies: nothing where the secret is not set and where it is not text. -/
inductive Supplies : (environment : Option Bytes) → (outside : Option String) → Prop where
  | unset : Supplies none none
  | text (s : String) : Supplies (some (Bytes.ofString s)) (some s)
  | garbled {octets : Bytes} : (∀ s : String, octets ≠ Bytes.ofString s) → Supplies (some octets) none

/-- How reading a text depends on the secret from outside. -/
structure SecretAlone (text : String) : Prop where
  replaced : ∀ s, s ≠ "" → read text (some s) = (read text none).map fun c => c.setSecret (some s)
  kept : read text (some "") = read text none
  /-- Without a secret from outside, what is read is what the file has. -/
  found : ∀ c, read text none = .ok c → ofText? text = some c
  malformed : ofText? text = none → ∀ outside, read text outside = .error (.form text)
  /-- Of a text that breaks rules, all broken rules are reported, whatever the secret is. -/
  broken : ∀ c, ofText? text = some c → (∃ r : Rule, ¬r.Holds c) →
    c.problems.map Problem.field = (Rule.all.filter fun r => ¬r.Holds c).map Rule.field ∧
      ∀ outside, read text outside = .error (.rules c.problems)
  accepted : ∀ outside, (∃ c, read text outside = .ok c) ↔ ∃ c, ofText? text = some c ∧ ∀ r : Rule, r.Holds c
  failing : ∀ outside outside' p, read text outside = .error p ↔ read text outside' = .error p
  apart : ∀ outside outside' c d, read text outside = .ok c → read text outside' = .ok d →
    d = c.setSecret d.auth.secret

/-- How a file is loaded beside an environment. -/
structure Loaded (file : Option Bytes) : Prop where
  text : ∀ text, file = some (Bytes.ofString text) → ∀ environment, (∃ outside, Supplies environment outside) ∧
    ∀ outside, Supplies environment outside → load file environment = read text outside
  missing : file = none → ∀ environment, load file environment = .error (.file .notFound)
  garbled : ∀ octets, file = some octets → (∀ text : String, octets ≠ Bytes.ofString text) → ∀ environment,
    load file environment = .error (.file .notText)

theorem found_setSecret (c : Config) (secret : Option String) (r : Rule) :
    r.found (c.setSecret secret) = r.found c := by
  cases r <;> rfl

theorem problems_setSecret (c : Config) (secret : Option String) : (c.setSecret secret).problems = c.problems := by
  rw [problems_eq_flatMap, problems_eq_flatMap, funext (found_setSecret c secret)]

theorem withSecret_of_ne {s : String} (hs : s ≠ "") (c : Config) : c.withSecret (some s) = c.setSecret (some s) :=
  if_neg (mt String.isEmpty_iff.mp hs)

theorem withSecret_empty (c : Config) : c.withSecret (some "") = c := rfl

theorem exists_withSecret_eq (c : Config) (outside : Option String) :
    ∃ secret, c.withSecret outside = c.setSecret secret := by
  cases outside with
  | none => exact ⟨c.auth.secret, rfl⟩
  | some s =>
    by_cases hs : s = ""
    · subst hs
      exact ⟨c.auth.secret, withSecret_empty c⟩
    · exact ⟨some s, withSecret_of_ne hs c⟩

theorem read_eq (text : String) (outside : Option String) :
    read text outside = (read text none).map fun c => c.withSecret outside := by
  unfold read
  cases ofText? text with
  | none => rfl
  | some c =>
    obtain ⟨secret, hsecret⟩ := exists_withSecret_eq c outside
    have hproblems : (c.withSecret outside).problems = c.problems := hsecret ▸ problems_setSecret c secret
    have hnone : c.withSecret none = c := rfl
    dsimp only
    rw [hproblems, hnone]
    split <;> rfl

theorem read_of_none (h : ofText? text = none) (outside : Option String) :
    read text outside = .error (.form text) := by
  simp only [read, h]

theorem read_of_some (h : ofText? text = some c) :
    read text none = if c.problems = [] then .ok c else .error (.rules c.problems) := by
  have hnone : c.withSecret none = c := rfl
  simp only [read, h, hnone, List.isEmpty_iff]

theorem read_eq_error_iff {p : ReadProblem} : read text outside = .error p ↔ read text none = .error p := by
  rw [read_eq]
  cases read text none with
  | error q => exact Iff.rfl
  | ok c => exact ⟨nofun, nofun⟩

theorem read_eq_ok_iff : read text outside = .ok c ↔
    ∃ d, ofText? text = some d ∧ d.problems = [] ∧ d.withSecret outside = c := by
  cases h : ofText? text with
  | none =>
    rw [read_of_none h]
    exact ⟨nofun, by simp⟩
  | some d =>
    rw [read_eq, read_of_some h]
    by_cases hp : d.problems = []
    · rw [if_pos hp]
      simp [hp, Except.map]
    · rw [if_neg hp]
      simp [hp, Except.map]

theorem supplies_iff : Supplies environment outside ↔ environment.bind Bytes.toString? = outside := by
  constructor
  · rintro (_ | s | hoctets)
    · rfl
    · exact Bytes.toString?_eq_some_iff.mpr rfl
    · exact Bytes.toString?_eq_none_iff.mpr hoctets
  · rintro rfl
    cases environment with
    | none => exact .unset
    | some octets =>
      rw [Option.bind_some]
      cases h : Bytes.toString? octets with
      | none => exact .garbled (Bytes.toString?_eq_none_iff.mp h)
      | some s =>
        obtain rfl := Bytes.toString?_eq_some_iff.mp h
        exact .text s

theorem loaded (file : Option Bytes) : Loaded file := by
  constructor
  case text =>
    rintro text rfl environment
    refine ⟨⟨_, supplies_iff.mpr rfl⟩, fun outside hs => ?_⟩
    rw [← supplies_iff.mp hs, load, Bytes.toString?_eq_some_iff.mpr rfl]
  case missing =>
    rintro rfl environment
    rfl
  case garbled =>
    rintro octets rfl hoctets environment
    rw [load, Bytes.toString?_eq_none_iff.mpr hoctets]

/-- For every text, the secret from outside takes the place of the one that the text has, unless it is empty, and has no
other effect: the same texts are accepted, and the same errors reported, with any secret and with none. A file is loaded
as its text is read, beside the secret that the environment supplies. -/
theorem secret_alone_replaced (text : String) (file : Option Bytes) : SecretAlone text ∧ Loaded file := by
  refine ⟨?_, loaded file⟩
  constructor
  case replaced =>
    intro s hs
    rw [read_eq]
    congr 1
    funext c
    exact withSecret_of_ne hs c
  case kept =>
    rw [read_eq]
    cases read text none with
    | error p => rfl
    | ok c => exact congrArg Except.ok (withSecret_empty c)
  case found =>
    intro c hc
    obtain ⟨d, hd, -, rfl⟩ := read_eq_ok_iff.mp hc
    exact hd
  case malformed => exact read_of_none
  case broken =>
    rintro c hc ⟨r, hr⟩
    have hproblems : c.problems ≠ [] := fun hp => hr (problems_eq_nil_iff.mp hp r)
    refine ⟨map_field_problems c, fun outside => read_eq_error_iff.mpr ?_⟩
    rw [read_of_some hc, if_neg hproblems]
  case accepted =>
    intro outside
    simp only [read_eq_ok_iff, problems_eq_nil_iff]
    constructor
    · rintro ⟨_, d, hd, hr, -⟩
      exact ⟨d, hd, hr⟩
    · rintro ⟨d, hd, hr⟩
      exact ⟨_, d, hd, hr, rfl⟩
  case failing => exact fun outside outside' p => read_eq_error_iff.trans read_eq_error_iff.symm
  case apart =>
    intro outside outside' c d hc hd
    obtain ⟨e, he, -, rfl⟩ := read_eq_ok_iff.mp hc
    obtain ⟨e', he', -, rfl⟩ := read_eq_ok_iff.mp hd
    obtain rfl := Option.some.inj (he.symm.trans he')
    obtain ⟨secret, hsecret⟩ := exists_withSecret_eq e outside
    obtain ⟨secret', hsecret'⟩ := exists_withSecret_eq e outside'
    rw [hsecret, hsecret']
    rfl

def filed : String := "[upstream]\norigin = \"http://up.test\"\n[auth]\nsecret = \"from-file\"\n"

def filedConfig : Config where
  forwarding := { origin := "http://up.test" }
  auth := { secret := some "from-file" }

theorem secret_alone_replaced_filed : read filed (some "from-env") = .ok (filedConfig.setSecret (some "from-env")) ∧
    read filed (some "") = .ok filedConfig ∧ load (some (Bytes.ofString filed)) (some [0xFF]) = .ok filedConfig := by
  have hfiled : ofText? filed = some filedConfig := by decide +kernel
  have hrules : filedConfig.problems = [] := by decide +kernel
  have hread : read filed none = .ok filedConfig := by rw [read_of_some hfiled, if_pos hrules]
  obtain ⟨hsecret, hloaded⟩ := secret_alone_replaced filed (some (Bytes.ofString filed))
  have hgarbled : Supplies (some [0xFF]) none := supplies_iff.mpr (by decide)
  refine ⟨?_, hsecret.kept.trans hread, ((hloaded.text filed rfl _).2 none hgarbled).trans hread⟩
  rw [hsecret.replaced "from-env" (by decide), hread]
  rfl

end Turnstile.Config
