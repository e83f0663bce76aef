import Turnstile.Proofs.Http.Uri
import Turnstile.Proofs.Url.Origin
import Turnstile.Server.Denial

namespace Turnstile

open Http

theorem eq_ok_of_toOption {ε α : Type} {x : Except ε α} {a : α} (h : x.toOption = some a) : x = .ok a := by
  cases x with
  | error => cases h
  | ok => rw [Option.some.inj h]

namespace Http.Uri

variable {t : Bytes} {u : Uri}

theorem pathAndQuery_of_isRouted (h : parse t = .ok u) (hr : Server.isRouted u = true) :
    ∃ pq, u.pathAndQuery? = some pq ∧ (pq.head? = some slash ∨ pq.head? = some question) ∧ hash ∉ pq := by
  have hp : u.path.head? = some slash := of_decide_eq_true hr
  obtain ⟨hs, hraw, hq⟩ | ⟨hs, s, hsplit⟩ := of_parse h
  · simp [path, hasPath, queryText, hs, hraw, hq] at hp
  · obtain ⟨-, hhash, -⟩ := of_splitPath hsplit
    have hsome : (u.scheme.isSome || u.authority.isEmpty) = true := by simpa using hs
    refine ⟨_, by rw [pathAndQuery?, if_pos hsome], ?_⟩
    split
    · exact ⟨.inl rfl, by decide⟩
    · next hne =>
      refine ⟨?_, hhash⟩
      cases hraw : u.rawPath with
      | nil =>
        cases hq : u.query with
        | none => simp [queryText, hraw, hq] at hne
        | some q => exact .inr (by simp [queryText, hq])
      | cons b rest =>
        have hpath : u.path = b :: rest := by simp [path, hasPath, hraw]
        rw [hpath] at hp
        exact .inl hp

end Http.Uri

namespace Job

/-- Where the job for a path and query is bound. Its path cannot leave a base path, by whatever dots. -/
structure Bound (origin : Url) (pq : Bytes) (target : Uri) : Prop where
  scheme : target.scheme = some origin.scheme
  authority : target.authority = origin.authority
  pathAndQuery : target.pathAndQuery? = some (Origin.basePath origin ++ pq)
  text : target.text =
    origin.scheme ++ Bytes.ofString "://" ++ origin.authority ++ Uri.rooted (Origin.basePath origin ++ pq)
  dotFree : origin.path ≠ [0x2F] → Url.DotFree (pq.takeWhile (· != Uri.question))
  confined : origin.path ≠ [0x2F] → Url.DotFree target.path ∧ Url.withoutDots target.path = target.path ∧
    ∃ below, target.path = Origin.basePath origin ++ below ∧ (below = [] ∨ below.head? = some Uri.slash)

variable {origin : Url} {m : Method} {uri : Uri} {headers : Headers} {body pq : Bytes} {job : Job}

theorem of_forPath (h : forPath origin m pq headers body = .ok job) :
    (Origin.hasBasePath origin = true → hasDotSegment pq = false) ∧
      Uri.parse (Origin.base origin ++ pq) = .ok job.target := by
  unfold forPath at h
  split at h
  · cases h
  next hd =>
  split at h
  · cases h
  next ht =>
  cases h
  refine ⟨fun hb => ?_, ht⟩
  rw [hb, Bool.true_and] at hd
  exact Bool.eq_false_iff.mpr hd

theorem exists_forPath (h : forPath origin m pq headers body = .ok job) (m' : Method) (headers' : Headers)
    (body' : Bytes) : ∃ job', forPath origin m' pq headers' body' = .ok job' ∧ job'.target = job.target := by
  obtain ⟨-, ht⟩ := of_forPath h
  unfold forPath at h ⊢
  split at h
  · cases h
  next hd =>
  rw [if_neg hd, ht]
  exact ⟨_, rfl, rfl⟩

theorem dotFree_of_hasDotSegment (h : hasDotSegment pq = false) : Url.DotFree (pq.takeWhile (· != Uri.question)) := by
  intro s hs hd
  exact Bool.eq_false_iff.mp h (Url.hasDotSegment_eq_true_iff.mpr ⟨s, hs, hd⟩)

theorem target_of_forPath {s : String} (ho : Origin.parse s = .ok origin)
    (hpq : pq.head? = some Uri.slash ∨ pq.head? = some Uri.question) (hhash : Uri.hash ∉ pq)
    (h : forPath origin m pq headers body = .ok job) :
    job.target.scheme = some origin.scheme ∧ job.target.authority = origin.authority ∧
      Uri.question ∉ job.target.rawPath ∧
      job.target.rawPath ++ job.target.queryText = Origin.basePath origin ++ pq ∧
      job.target.rawPath = Origin.basePath origin ++ pq.takeWhile (· != Uri.question) := by
  obtain ⟨hhttp, hs, -⟩ := Origin.of_parse ho
  have hwhole := (Origin.of_basePath hs).2
  have hends := Origin.endsAuthority_of_head? hs hpq
  have hparse := (of_forPath h).2
  rw [Origin.base_eq ho, List.append_assoc, List.append_assoc] at hparse
  generalize Origin.basePath origin = base at hparse hends hwhole ⊢
  obtain ⟨h1, h2, hsplit⟩ := Uri.of_parse_http (Origin.isHttp_iff.mp hhttp) hs.authority hends hparse
  have hquestion := (Uri.of_splitPath hsplit).1
  have htext : job.target.rawPath ++ job.target.queryText = base ++ pq := by
    apply Uri.rawPath_append_queryText hsplit
    intro hm
    exact (List.mem_append.mp hm).elim (fun hb => (hwhole _ hb).2 rfl) hhash
  refine ⟨h1, h2, hquestion, htext, ?_⟩
  have hbase : ∀ b ∈ base, (b != Uri.question) = true := fun b hb => bne_iff_ne.mpr (hwhole b hb).1
  rw [← List.takeWhile_append_of_pos hbase, ← htext, Uri.takeWhile_rawPath hquestion]

theorem exists_below {base : Bytes} (hs : uri.scheme.isSome = true)
    (hraw : uri.rawPath = base ++ pq.takeWhile (· != Uri.question))
    (hpq : pq.head? = some Uri.slash ∨ pq.head? = some Uri.question)
    (hd : Url.DotFree (pq.takeWhile (· != Uri.question))) :
    ∃ below, uri.path = base ++ below ∧ (below = [] ∨ below.head? = some Uri.slash) ∧ Url.DotFree below := by
  have hhead : pq.takeWhile (· != Uri.question) = [] ∨ (pq.takeWhile (· != Uri.question)).head? = some Uri.slash := by
    cases pq with
    | nil => exact .inl rfl
    | cons b rest =>
      obtain hb | hb := hpq <;> obtain rfl := Option.some.inj hb
      · exact .inr rfl
      · exact .inl rfl
  rw [Uri.path_of_scheme hs, hraw]
  split
  · next he =>
    obtain ⟨rfl, -⟩ := List.append_eq_nil_iff.mp (List.isEmpty_iff.mp he)
    exact ⟨[Uri.slash], rfl, .inr rfl, Url.dotFree_slash_cons.mpr Url.dotFree_nil⟩
  · exact ⟨_, rfl, hhead, hd⟩

theorem bound_of_forPath {s : String} (ho : Origin.parse s = .ok origin)
    (hpq : pq.head? = some Uri.slash ∨ pq.head? = some Uri.question) (hhash : Uri.hash ∉ pq)
    (h : forPath origin m pq headers body = .ok job) : Bound origin pq job.target := by
  obtain ⟨-, hs, -⟩ := Origin.of_parse ho
  obtain ⟨hscheme, hauthority, hquestion, htext, hraw⟩ := target_of_forPath ho hpq hhash h
  have hsome : job.target.scheme.isSome = true := by rw [hscheme, Option.isSome_some]
  have hne : pq ≠ [] := by
    rintro rfl
    obtain hpq | hpq := hpq <;> cases hpq
  have hdots : origin.path ≠ [0x2F] → Url.DotFree (pq.takeWhile (· != Uri.question)) := fun hp =>
    dotFree_of_hasDotSegment ((of_forPath h).1 (bne_iff_ne.mpr hp))
  constructor
  case scheme => exact hscheme
  case authority => exact hauthority
  case pathAndQuery => simp [Uri.pathAndQuery?, hscheme, hne, htext]
  case text =>
    rw [← htext, ← Uri.path_append_queryText hsome hquestion (by simp [htext, hne]), ← hauthority]
    simp only [Uri.text, Uri.schemeText, hscheme, List.append_assoc]
  case dotFree => exact hdots
  case confined =>
    intro hp
    obtain ⟨below, hpath, hbelow, hfree⟩ := exists_below hsome hraw hpq (hdots hp)
    have htarget : Url.DotFree job.target.path := hpath ▸ hs.path.dotFree.dropEnd.append hfree hbelow
    have hhead : job.target.path.head? = some Uri.slash := by
      have hne := Uri.path_ne_nil hsome
      rw [hpath] at hne ⊢
      obtain hb | hb := (Origin.of_basePath hs).1
      · rw [hb, List.nil_append] at hne ⊢
        exact hbelow.resolve_left hne
      · rw [List.head?_append, hb, Option.some_or]
    exact ⟨htarget, Url.withoutDots_of_dotFree htarget hhead, below, hpath, hbelow⟩

/-- For every accepted origin and every request that has a route: the job is bound for the origin, and nothing of the
request but its path and query has a part in it. -/
theorem bound_for_origin {s : String} {t : Bytes} (ho : Origin.parse s = .ok origin) (ht : Uri.parse t = .ok uri)
    (hr : Server.isRouted uri = true) (hj : forTarget origin m uri headers body = .ok job) :
    ∃ pq, uri.pathAndQuery? = some pq ∧ (pq.head? = some Uri.slash ∨ pq.head? = some Uri.question) ∧
      Bound origin pq job.target ∧
      ∀ m' (uri' : Uri) headers' body', uri'.pathAndQuery? = some pq →
        ∃ job', forTarget origin m' uri' headers' body' = .ok job' ∧ job'.target = job.target := by
  obtain ⟨pq, hpq, hhead, hhash⟩ := Uri.pathAndQuery_of_isRouted ht hr
  rw [forTarget, hpq, Option.getD_some] at hj
  refine ⟨pq, hpq, hhead, bound_of_forPath ho hhead hhash hj, ?_⟩
  intro m' uri' headers' body' hpq'
  rw [forTarget, hpq', Option.getD_some]
  exact exists_forPath hj m' headers' body'

/-- An origin with user information, a port and a base path. -/
def based : Url where
  scheme := Bytes.ofString "https"
  username := Bytes.ofString "u"
  password := some (Bytes.ofString "p")
  host := some (.domain (Bytes.ofString "up.test"))
  port := some 8443
  path := Bytes.ofString "/base//"

/-- A target that names another host, before its path and in it. -/
def stray : Uri where
  scheme := some (Bytes.ofString "http")
  authority := Bytes.ofString "other.test"
  rawPath := Bytes.ofString "//third.test/@x"
  query := some (Bytes.ofString "q=/../")

theorem bound_for_origin_based : ∃ job,
    forTarget based .get stray [] [] = .ok job ∧
      Bound based (Bytes.ofString "//third.test/@x?q=/../") job.target ∧
      job.target.text = Bytes.ofString "https://u:p@up.test:8443/base//third.test/@x?q=/../" := by
  have ho : Origin.parse "https://u:p@UP.test:8443/a/%2E./base//" = .ok based := eq_ok_of_toOption (by decide +kernel)
  have ht : Uri.parse (Bytes.ofString "http://other.test//third.test/@x?q=/../") = .ok stray :=
    eq_ok_of_toOption (by decide +kernel)
  have hr : Server.isRouted stray = true := by decide +kernel
  have hpq : stray.pathAndQuery? = some (Bytes.ofString "//third.test/@x?q=/../") := by decide +kernel
  have hj : (forTarget based .get stray [] []).toOption.isSome = true := by decide +kernel
  obtain ⟨job, hj⟩ := Option.isSome_iff_exists.mp hj
  have hj := eq_ok_of_toOption hj
  obtain ⟨pq, he, -, hb, -⟩ := bound_for_origin ho ht hr hj
  obtain rfl := Option.some.inj (hpq.symm.trans he)
  exact ⟨job, hj, hb, hb.text.trans (by decide +kernel)⟩

end Job

end Turnstile
