import Turnstile.Proofs.Server.Confinement
import Turnstile.Proofs.Url.Place

namespace Turnstile

open Http

namespace Http.Uri

variable {s t : Bytes} {u : Uri}

def asteriskForm : Uri := ⟨none, [], [asterisk], none⟩

theorem rawPath_of_head? (h : splitPath s = .ok (u.rawPath, u.query))
    (hs : ∀ b, s.head? = some b → endsAuthority b = true) : u.rawPath = [] ∨ u.rawPath.head? = some slash := by
  rw [rawPath_of_splitPath h]
  cases s with
  | nil => exact .inl rfl
  | cons b rest =>
    obtain rfl | rfl | rfl := Url.endsAuthority_eq_true_iff.mp (hs b rfl)
    · exact .inr rfl
    · exact .inl rfl
    · exact .inl rfl

theorem rest_of_splitAuthority {authority rest : Bytes} (h : splitAuthority s = .ok (authority, rest)) :
    ∀ b, rest.head? = some b → endsAuthority b = true := by
  unfold splitAuthority at h
  rw [List.span_eq_takeWhile_dropWhile] at h
  dsimp only at h
  split at h
  · cases h
  split at h
  · cases h
  · cases h
    exact endsAuthority_dropWhile s

theorem rooted_of_parseFull (h : parseFull t = .ok u) : u.rawPath = [] ∨ u.rawPath.head? = some slash := by
  unfold parseFull at h
  simp only [bind, Except.bind] at h
  split at h
  · cases h
  split at h
  · cases h
  next place hplace =>
  split at h
  · split at h
    · cases h
      exact .inl rfl
    · cases h
  split at h
  · cases h
  split at h
  · cases h
  next hpath =>
  cases h
  exact rawPath_of_head? hpath (rest_of_splitAuthority hplace)

theorem rooted_of_parse (h : parse t = .ok u) :
    u = asteriskForm ∨ u.rawPath = [] ∨ u.rawPath.head? = some slash := by
  unfold parse at h
  split at h
  · cases h
  split at h
  · cases h
  · split at h
    · cases h
      exact .inr (.inr rfl)
    split at h
    · next hb =>
      subst hb
      cases h
      exact .inl rfl
    split at h
    · cases h
    split at h
    · cases h
      exact .inr (.inl rfl)
    · cases h
  next b rest _ =>
  split at h
  · next hb =>
    split at h
    · cases h
    · next hs =>
      cases h
      refine .inr (rawPath_of_head? hs ?_)
      rintro c ⟨⟩
      exact Url.endsAuthority_eq_true_iff.mpr (.inl hb)
  · exact .inr (rooted_of_parseFull h)

end Http.Uri

namespace Job

open Uri (asterisk asteriskForm)

variable {origin : Url} {m : Method} {uri : Uri} {headers : Headers} {body t : Bytes} {s : String} {job : Job}

/-- The path and query that a target asks for; an authority alone asks for the root. -/
def asked (uri : Uri) : Bytes := uri.pathAndQuery?.getD [Uri.slash]

/-- What sticks to the authority of the origin of the text that is put behind it. -/
def stuck (origin : Url) (uri : Uri) : Bytes :=
  (Origin.basePath origin ++ asked uri).takeWhile fun b => !Uri.endsAuthority b

theorem head?_asked (ht : Uri.parse t = .ok uri) :
    uri = asteriskForm ∨ (asked uri).head? = some Uri.slash ∨ (asked uri).head? = some Uri.question := by
  refine (Uri.rooted_of_parse ht).imp_right fun hraw => ?_
  unfold asked Uri.pathAndQuery?
  split
  · dsimp only
    rw [Option.getD_some]
    split
    · exact .inl rfl
    · next hne =>
      obtain hraw | hraw := hraw
      · cases hq : uri.query with
        | none => simp [Uri.queryText, hraw, hq] at hne
        | some q => exact .inr (by simp [Uri.queryText, hraw, hq])
      · exact .inl (by rw [List.head?_append, hraw, Option.some_or])
  · exact .inl rfl

theorem stuck_eq_nil (ho : Origin.parse s = .ok origin)
    (h : Origin.basePath origin ≠ [] ∨ (asked uri).head? = some Uri.slash ∨ (asked uri).head? = some Uri.question) :
    stuck origin uri = [] := by
  obtain ⟨-, hs, -⟩ := Origin.of_parse ho
  have hends : ∀ b, (Origin.basePath origin ++ asked uri).head? = some b → Uri.endsAuthority b = true := by
    obtain hb | hpq := h
    · intro b hb'
      have hslash := (Origin.of_basePath hs).1.resolve_left hb
      rw [List.head?_append, hslash, Option.some_or] at hb'
      exact Url.endsAuthority_eq_true_iff.mpr (.inl (Option.some.inj hb').symm)
    · exact Origin.endsAuthority_of_head? hs hpq
  unfold stuck
  generalize Origin.basePath origin ++ asked uri = text at hends ⊢
  cases text with
  | nil => rfl
  | cons b rest => simp [hends b rfl]

theorem stuck_asteriskForm (hb : Origin.basePath origin = []) : stuck origin asteriskForm = [asterisk] := by
  rw [stuck, hb]
  rfl

theorem stuck_ne_nil_iff (ho : Origin.parse s = .ok origin) (ht : Uri.parse t = .ok uri) :
    stuck origin uri ≠ [] ↔ uri = asteriskForm ∧ Origin.basePath origin = [] := by
  constructor
  · intro hne
    obtain rfl | hpq := head?_asked ht
    · exact ⟨rfl, by_contra fun hb => hne (stuck_eq_nil ho (.inl hb))⟩
    · exact absurd (stuck_eq_nil ho (.inr hpq)) hne
  · rintro ⟨rfl, hb⟩
    rw [stuck_asteriskForm hb]
    exact List.cons_ne_nil _ _

theorem place_of_forTarget (ho : Origin.parse s = .ok origin) (h : forTarget origin m uri headers body = .ok job) :
    job.target.scheme = some origin.scheme ∧ job.target.authority = origin.authority ++ stuck origin uri := by
  obtain ⟨hscheme, hauthority, -⟩ := split_of_forPath ho h
  exact ⟨hscheme, hauthority⟩

theorem exists_forTarget_asterisk (ho : Origin.parse s = .ok origin) (hb : Origin.basePath origin = [])
    (hf : ∀ b ∈ origin.hostText, Url.isForeign b = false)
    (hl : (Origin.base origin ++ [asterisk]).length ≤ Uri.maxLength) :
    ∃ job, forTarget origin m asteriskForm headers body = .ok job := by
  obtain ⟨hhttp, hregular, -⟩ := Origin.regular_of_parse ho
  have hfree : Url.DotFree ([asterisk].takeWhile (· != Uri.question)) :=
    dotFree_of_hasDotSegment (by decide)
  have htarget : Uri.parse (Origin.base origin ++ [asterisk]) =
      .ok ⟨some origin.scheme, origin.authority ++ [asterisk], [], none⟩ := by
    have hempty : (origin.authority ++ [asterisk]).isEmpty = false := by simp
    rw [Origin.base_eq ho, hb, List.append_nil, List.append_assoc] at hl ⊢
    rw [Uri.parse_http (Origin.isHttp_iff.mp hhttp) hl]
    simp only [hregular.splitAuthority_asterisk hf, hempty, bind, Except.bind]
    rfl
  exact (forPath_eq (.inr hfree)).1 _ htarget

/-- For every accepted origin and every target, whatever its form: the authority of a job is the origin's, followed by
what sticks to it. Where nothing sticks, scheme, user information, host and port are the origin's. Of what can be read
as a target, the asterisk alone sticks, and only behind an origin without a base path. It is not refused there, and the
host or the port is another one then, unless the host stands in brackets and no port follows it. -/
theorem aimed_unless_stuck (ho : Origin.parse s = .ok origin) (uri : Uri) (m : Method) (headers : Headers)
    (body : Bytes) :
    (∀ job, forTarget origin m uri headers body = .ok job →
      job.target.authority = origin.authority ++ stuck origin uri ∧
        (stuck origin uri = [] → origin.Aimed job.target)) ∧
    ∀ t, Uri.parse t = .ok uri →
      (stuck origin uri ≠ [] ↔ uri = asteriskForm ∧ Origin.basePath origin = []) ∧
      (stuck origin uri ≠ [] →
        (∀ job, forTarget origin m uri headers body = .ok job →
          (origin.Aimed job.target ↔ (∃ groups, origin.host = some (.v6 groups)) ∧ origin.port = none)) ∧
        ((∀ b ∈ origin.hostText, Url.isForeign b = false) →
          (Origin.base origin ++ [asterisk]).length ≤ Uri.maxLength →
          ∃ job, forTarget origin m uri headers body = .ok job)) := by
  obtain ⟨-, hregular, -⟩ := Origin.regular_of_parse ho
  constructor
  · intro job hj
    obtain ⟨hscheme, hauthority⟩ := place_of_forTarget ho hj
    refine ⟨hauthority, fun hnil => ?_⟩
    rw [hnil, List.append_nil] at hauthority
    exact hregular.aimed (fun p hp => Origin.port_lt ho hp) hscheme hauthority
  · intro t ht
    have hiff := stuck_ne_nil_iff ho ht
    refine ⟨hiff, fun hne => ?_⟩
    obtain ⟨rfl, hb⟩ := hiff.mp hne
    constructor
    · intro job hj
      obtain ⟨hscheme, hauthority⟩ := place_of_forTarget ho hj
      rw [stuck_asteriskForm hb] at hauthority
      exact hregular.aimed_asterisk_iff hscheme hauthority
    · exact exists_forTarget_asterisk ho hb

def bare : Url where
  scheme := Bytes.ofString "http"
  host := some (.domain (Bytes.ofString "up.test"))
  path := Bytes.ofString "/"

theorem parse_bare : Origin.parse "http://up.test" = .ok bare := eq_ok_of_toOption (by decide)

theorem parse_asterisk : Uri.parse [asterisk] = .ok asteriskForm := rfl

/-- The asterisk is not refused behind a host, and the job is bound for a host whose name ends with it. -/
theorem asterisk_joins_host : Origin.parse "http://up.test" = .ok bare ∧ Uri.parse [asterisk] = .ok asteriskForm ∧
    ∃ job, forTarget bare .get asteriskForm [] [] = .ok job ∧
      job.target.host = some (Bytes.ofString "up.test*") ∧ ¬bare.Aimed job.target := by
  have hj : ((forTarget bare .get asteriskForm [] []).toOption.bind fun job => job.target.host) =
      some (Bytes.ofString "up.test*") := by decide
  obtain ⟨job, hok, hhost⟩ := Option.bind_eq_some_iff.mp hj
  refine ⟨parse_bare, parse_asterisk, job, eq_ok_of_toOption hok, hhost, fun haimed => ?_⟩
  exact absurd (haimed.host.symm.trans hhost) (by decide)

theorem aimed_unless_stuck_bare :
    (∃ job, forTarget bare .get stray [] [] = .ok job ∧ bare.Aimed job.target) ∧
    (∃ job, forTarget based .get asteriskForm [] [] = .ok job ∧ based.Aimed job.target) ∧
    ∃ job, forTarget bare .get asteriskForm [] [] = .ok job ∧ ¬bare.Aimed job.target := by
  refine ⟨?_, ?_, ?_⟩
  · have hj : (forTarget bare .get stray [] []).toOption.isSome = true := by decide +kernel
    obtain ⟨job, hj⟩ := Option.isSome_iff_exists.mp hj
    have hj := eq_ok_of_toOption hj
    exact ⟨job, hj, ((aimed_unless_stuck parse_bare stray .get [] []).1 job hj).2 (by decide +kernel)⟩
  · have ho : Origin.parse "https://u:p@UP.test:8443/a/%2E./base//" = .ok based := eq_ok_of_toOption (by decide +kernel)
    have hj : (forTarget based .get asteriskForm [] []).toOption.isSome = true := by decide +kernel
    obtain ⟨job, hj⟩ := Option.isSome_iff_exists.mp hj
    have hj := eq_ok_of_toOption hj
    exact ⟨job, hj, ((aimed_unless_stuck ho asteriskForm .get [] []).1 job hj).2 (by decide +kernel)⟩
  · have hstuck : stuck bare asteriskForm ≠ [] := by decide
    obtain ⟨hunaimed, hok⟩ := ((aimed_unless_stuck parse_bare asteriskForm .get [] []).2 _ parse_asterisk).2 hstuck
    obtain ⟨job, hj⟩ := hok (by decide +kernel) (by decide +kernel)
    refine ⟨job, hj, fun haimed => ?_⟩
    obtain ⟨⟨groups, hv⟩, -⟩ := (hunaimed job hj).mp haimed
    cases hv

end Job

end Turnstile
