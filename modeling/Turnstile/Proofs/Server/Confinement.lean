import Mathlib.Data.List.TakeWhile
import Turnstile.Proofs.Server.Service

namespace Turnstile

open Http

namespace Http.Uri

variable {s : Bytes} {u : Uri}

def pathPart (s : Bytes) : Bytes := s.takeWhile fun b => b != question && b != hash

theorem rawPath_of_splitPath (h : splitPath s = .ok (u.rawPath, u.query)) : u.rawPath = pathPart s := by
  unfold splitPath at h
  rw [List.span_eq_takeWhile_dropWhile] at h
  dsimp only at h
  split at h
  · cases h
  split at h
  · split at h
    · exact (Prod.mk.inj (Except.ok.inj h)).1.symm
    · cases h
  split at h
  · split at h
    · exact (Prod.mk.inj (Except.ok.inj h)).1.symm
    · cases h
  · split at h
    · exact (Prod.mk.inj (Except.ok.inj h)).1.symm
    · cases h

theorem pathPart_append {front : Bytes} (h : ∀ b ∈ front, b ≠ question ∧ b ≠ hash) (s : Bytes) :
    pathPart (front ++ s) = front ++ pathPart s :=
  List.takeWhile_append_of_pos fun b hb => by simpa using h b hb

theorem endsAuthority_dropWhile (s : Bytes) :
    ∀ b, (s.dropWhile fun b => !endsAuthority b).head? = some b → endsAuthority b = true := by
  intro b hb
  have hn := List.head?_dropWhile_not (fun b => !endsAuthority b) s
  rw [hb] at hn
  simpa using hn

theorem pathPart_dropWhile (s : Bytes) :
    pathPart (s.dropWhile fun b => !endsAuthority b) = (pathPart s).dropWhile (· != slash) := by
  induction s with
  | nil => rfl
  | cons b s ih =>
    by_cases he : endsAuthority b = true
    · rw [List.dropWhile_cons_of_neg (by simp [he])]
      obtain rfl | rfl | rfl := Url.endsAuthority_eq_true_iff.mp he <;> rfl
    · obtain ⟨hslash, hquestion, hhash⟩ : b ≠ slash ∧ b ≠ question ∧ b ≠ hash := by
        simpa [Url.endsAuthority_eq_true_iff] using he
      have hcons : pathPart (b :: s) = b :: pathPart s := List.takeWhile_cons_of_pos (by simp [hquestion, hhash])
      rw [List.dropWhile_cons_of_pos (by simp [he]), hcons, List.dropWhile_cons_of_pos (by simp [hslash]), ih]

theorem pathPart_eq (s : Bytes) : pathPart s = (s.takeWhile (· != question)).takeWhile (· != hash) := by
  rw [List.takeWhile_takeWhile, pathPart]
  congr 1
  funext b
  rw [Bool.and_comm, Bool.decide_and, Bool.decide_eq_true, Bool.decide_eq_true]

end Http.Uri

namespace Url

open Http.Uri (slash)

variable {path segment : Bytes}

theorem dotFree_iff_of_notMem (h : slash ∉ segment) : DotFree segment ↔ ¬IsDots segment := by
  have hone : segment.splitOn Reader.slash = [segment] := List.splitOn_eq_singleton h
  simp [DotFree, hone]

theorem dropWhile_eq_nil (h : slash ∉ segment) : segment.dropWhile (· != slash) = [] := by
  rw [List.dropWhile_eq_nil_iff]
  rintro b hb
  rw [bne_iff_ne]
  rintro rfl
  exact h hb

theorem dropWhile_append_slash (front segment : Bytes) : (front ++ slash :: segment).dropWhile (· != slash) =
    front.dropWhile (· != slash) ++ slash :: segment := by
  have hstop : (slash :: segment).dropWhile (· != slash) = slash :: segment := by simp
  rw [List.dropWhile_append]
  split
  · next he => rw [hstop, List.isEmpty_iff.mp he, List.nil_append]
  · rfl

theorem DotFree.dropWhile (h : DotFree path) : DotFree (path.dropWhile (· != slash)) := by
  by_cases hs : slash ∈ path
  · obtain ⟨front, rest, rfl, hf⟩ := List.eq_append_cons_of_mem hs
    rw [dropWhile_append_slash, dropWhile_eq_nil hf]
    exact dotFree_slash_cons.mpr (dotFree_append_slash.mp h).2
  · rw [dropWhile_eq_nil hs]
    exact dotFree_nil

theorem dotFree_append_iff {base : Bytes} (hb : DotFree base) (hp : path = [] ∨ path.head? = some slash) :
    DotFree (base ++ path) ↔ DotFree path := by
  refine ⟨fun h => ?_, fun h => hb.append h hp⟩
  obtain rfl | hp := hp
  · exact dotFree_nil
  · obtain ⟨rest, rfl⟩ := List.head?_eq_some_iff.mp hp
    exact dotFree_slash_cons.mpr (dotFree_append_slash.mp h).2

theorem exists_last_segment (h : slash ∈ path) :
    ∃ front segment, path = front ++ slash :: segment ∧ slash ∉ segment := by
  obtain ⟨segment, front, he, hs⟩ := List.eq_append_cons_of_mem (List.mem_reverse.mpr h)
  refine ⟨front.reverse, segment.reverse, ?_, fun hm => hs (List.mem_reverse.mp hm)⟩
  rw [← List.reverse_reverse path, he]
  simp

end Url

namespace Job

open Uri (slash question pathPart)

variable {origin : Url} {m : Method} {headers : Headers} {body pq : Bytes} {job : Job}

/-- A path that is the base path or continues it, and from which no dot segment leads elsewhere. -/
structure Confined (origin : Url) (path : Bytes) : Prop where
  below : ∃ below, path = Origin.basePath origin ++ below ∧ (below = [] ∨ below.head? = some slash)
  dotFree : Url.DotFree path

/-- The text begins where a path can go on: with a slash, or beyond the path. -/
def Joins (pq : Bytes) : Prop := pathPart pq = [] ∨ (pathPart pq).head? = some slash

/-- Behind a dot segment the path of the text ends with a fragment. -/
def CutShort (pq : Bytes) : Prop := ∃ front segment rest, pq = front ++ slash :: segment ++ Uri.hash :: rest ∧
  (∀ b ∈ front ++ slash :: segment, b ≠ question ∧ b ≠ Uri.hash) ∧ slash ∉ segment ∧ Url.IsDots segment

theorem not_cutShort (h : Uri.hash ∉ pq) : ¬CutShort pq := by
  rintro ⟨front, segment, rest, rfl, -⟩
  simp at h

theorem pathPart_of_cutShort {front rest : Bytes} (h : ∀ b ∈ front, b ≠ question ∧ b ≠ Uri.hash) :
    pathPart (front ++ Uri.hash :: rest) = front := by
  rw [Uri.pathPart_append h]
  exact List.append_nil front

theorem dotFree_pathPart_iff (hd : Url.DotFree (pq.takeWhile (· != question))) :
    Url.DotFree ((pathPart pq).dropWhile (· != slash)) ↔ ¬CutShort pq := by
  constructor
  · rintro hfree ⟨front, segment, rest, rfl, hpath, hslash, hdots⟩
    rw [pathPart_of_cutShort hpath, Url.dropWhile_append_slash] at hfree
    exact (Url.dotFree_iff_of_notMem hslash).mp (Url.dotFree_append_slash.mp hfree).2 hdots
  · intro hcut
    -- what the check has seen is the path, and perhaps a fragment behind it
    have hpq := List.takeWhile_append_dropWhile (p := (· != question)) (l := pq)
    have hchecked := List.takeWhile_append_dropWhile (p := (· != Uri.hash)) (l := pq.takeWhile (· != question))
    rw [← Uri.pathPart_eq] at hchecked
    have hbare : ∀ b ∈ pathPart pq, b ≠ question ∧ b ≠ Uri.hash := fun b hb => by
      simpa using List.all_eq_true.mp List.all_takeWhile b hb
    have hhead := List.head?_dropWhile_not (· != Uri.hash) (pq.takeWhile (· != question))
    generalize (pq.takeWhile (· != question)).dropWhile (· != Uri.hash) = fragment at hchecked hhead
    by_cases hs : slash ∈ pathPart pq
    · obtain ⟨front, segment, he, hslash⟩ := Url.exists_last_segment hs
      rw [← hchecked, he, List.append_assoc, List.cons_append] at hd
      obtain ⟨hfront, hlast⟩ := Url.dotFree_append_slash.mp hd
      rw [he, Url.dropWhile_append_slash]
      refine Url.dotFree_append_slash.mpr ⟨hfront.dropWhile, ?_⟩
      cases fragment with
      | nil => rwa [List.append_nil] at hlast
      | cons b rest =>
        obtain rfl : b = Uri.hash := by simpa using hhead
        rw [Url.dotFree_iff_of_notMem hslash]
        intro hdots
        refine hcut ⟨front, segment, rest ++ pq.dropWhile (· != question), ?_, he ▸ hbare, hslash, hdots⟩
        conv_lhs => rw [← hpq, ← hchecked, he]
        simp
    · rw [Url.dropWhile_eq_nil hs]
      exact Url.dotFree_nil

theorem split_of_forPath {s : String} (ho : Origin.parse s = .ok origin)
    (h : forPath origin m pq headers body = .ok job) : job.target.scheme = some origin.scheme ∧
      job.target.authority =
        origin.authority ++ (Origin.basePath origin ++ pq).takeWhile (fun b => !Uri.endsAuthority b) ∧
      Uri.splitPath ((Origin.basePath origin ++ pq).dropWhile fun b => !Uri.endsAuthority b) =
        .ok (job.target.rawPath, job.target.query) := by
  obtain ⟨hhttp, hs, -⟩ := Origin.of_parse ho
  have hparse := (of_forPath h).2
  rw [Origin.base_eq ho, List.append_assoc, List.append_assoc] at hparse
  generalize Origin.basePath origin ++ pq = text at hparse ⊢
  rw [← List.takeWhile_append_dropWhile (p := fun b => !Uri.endsAuthority b) (l := text),
    ← List.append_assoc origin.authority] at hparse
  have hfront : ∀ b ∈ origin.authority ++ text.takeWhile (fun b => !Uri.endsAuthority b), Uri.endsAuthority b = false :=
    List.forall_mem_append.mpr ⟨hs.authority, fun b hb => by simpa using List.all_eq_true.mp List.all_takeWhile b hb⟩
  exact Uri.of_parse_http (Origin.isHttp_iff.mp hhttp) hfront (Uri.endsAuthority_dropWhile text) hparse

theorem rawPath_of_forPath {s : String} (ho : Origin.parse s = .ok origin)
    (h : forPath origin m pq headers body = .ok job) : job.target.scheme = some origin.scheme ∧
      job.target.rawPath = (pathPart (Origin.basePath origin ++ pq)).dropWhile (· != slash) := by
  obtain ⟨hscheme, -, hsplit⟩ := split_of_forPath ho h
  rw [← Uri.pathPart_dropWhile]
  exact ⟨hscheme, Uri.rawPath_of_splitPath hsplit⟩

theorem confined_of_basePath_eq_nil {s : String} (ho : Origin.parse s = .ok origin) (hb : Origin.basePath origin = [])
    (h : forPath origin m pq headers body = .ok job) :
    Confined origin job.target.path ↔ Url.DotFree ((pathPart pq).dropWhile (· != slash)) := by
  obtain ⟨hscheme, hraw⟩ := rawPath_of_forPath ho h
  have hsome : job.target.scheme.isSome = true := by rw [hscheme, Option.isSome_some]
  have hpath := Uri.path_of_scheme hsome
  rw [hb, List.nil_append] at hraw
  have hstart := List.head?_dropWhile_not (· != slash) (pathPart pq)
  rw [← hraw] at hstart ⊢
  have hbelow : job.target.path.head? = some slash := by
    rw [hpath]
    cases hr : job.target.rawPath with
    | nil => rfl
    | cons b rest =>
      rw [hr] at hstart
      simpa using hstart
  have hfree : Url.DotFree job.target.path ↔ Url.DotFree job.target.rawPath := by
    rw [hpath]
    split
    · next hr =>
      rw [List.isEmpty_iff.mp hr]
      exact Url.dotFree_slash_cons
    · rfl
  exact ⟨fun hc => hfree.mp hc.dotFree, fun hd => ⟨⟨_, by rw [hb, List.nil_append], .inr hbelow⟩, hfree.mpr hd⟩⟩

theorem confined_of_basePath_ne_nil {s : String} (ho : Origin.parse s = .ok origin) (hb : Origin.basePath origin ≠ [])
    (h : forPath origin m pq headers body = .ok job) :
    Confined origin job.target.path ↔ Joins pq ∧ Url.DotFree ((pathPart pq).dropWhile (· != slash)) := by
  obtain ⟨-, hs, -⟩ := Origin.of_parse ho
  obtain ⟨hhead, hwhole⟩ := Origin.of_basePath hs
  obtain ⟨hscheme, hraw⟩ := rawPath_of_forPath ho h
  have hsome : job.target.scheme.isSome = true := by rw [hscheme, Option.isSome_some]
  have hfree : Url.DotFree (Origin.basePath origin) := hs.path.dotFree.dropEnd
  have hpath : job.target.path = Origin.basePath origin ++ pathPart pq := by
    rw [Uri.pathPart_append hwhole] at hraw
    obtain ⟨rest, hrest⟩ := List.head?_eq_some_iff.mp (hhead.resolve_left hb)
    rw [Uri.path_of_scheme hsome, hraw, hrest]
    rfl
  have hstart (hj : Joins pq) : (pathPart pq).dropWhile (· != slash) = pathPart pq := by
    obtain hj | hj := hj
    · rw [hj]
      rfl
    · obtain ⟨rest, hrest⟩ := List.head?_eq_some_iff.mp hj
      rw [hrest]
      simp
  constructor
  · rintro ⟨⟨below, he, hbelow⟩, hd⟩
    obtain rfl : pathPart pq = below := List.append_cancel_left (hpath.symm.trans he)
    refine ⟨hbelow, ?_⟩
    rw [hstart hbelow]
    exact (Url.dotFree_append_iff hfree hbelow).mp (hpath ▸ hd)
  · rintro ⟨hj, hd⟩
    rw [hstart hj] at hd
    exact ⟨⟨_, hpath, hj⟩, hpath ▸ (Url.dotFree_append_iff hfree hj).mpr hd⟩

theorem forPath_eq_escapesBase_iff (hbase : Origin.hasBasePath origin = true) :
    forPath origin m pq headers body = .error .escapesBase ↔ ¬Url.DotFree (pq.takeWhile (· != question)) := by
  constructor
  · intro he hd
    obtain ⟨hok, herror⟩ := @forPath_eq origin m headers body pq (.inr hd)
    cases ht : Uri.parse (Origin.base origin ++ pq) with
    | error e =>
      rw [herror e ht] at he
      cases he
    | ok target =>
      obtain ⟨job, hj⟩ := hok target ht
      rw [hj] at he
      cases he
  · intro hd
    have hseen : hasDotSegment pq = true := by
      rw [← Bool.not_eq_false]
      exact fun hn => hd (dotFree_of_hasDotSegment hn)
    rw [forPath, hbase, hseen, Bool.and_self, if_pos rfl]

/-- For every accepted origin with a base path and every text: a dot segment that the check sees is refused. Where there
is a job, its path is confined to the base path if and only if the text begins where a path can go on, which it need not
where the base path is nothing but slashes, and no dot segment is cut short by a fragment. -/
theorem confined_unless_cut_short {s : String} (ho : Origin.parse s = .ok origin) (hp : origin.path ≠ [0x2F])
    (m : Method) (pq : Bytes) (headers : Headers) (body : Bytes) :
    (forPath origin m pq headers body = .error .escapesBase ↔ ¬Url.DotFree (pq.takeWhile (· != question))) ∧
    ∀ job, forPath origin m pq headers body = .ok job →
      (Confined origin job.target.path ↔ (Origin.basePath origin = [] ∨ Joins pq) ∧ ¬CutShort pq) := by
  have hbase : Origin.hasBasePath origin = true := bne_iff_ne.mpr hp
  refine ⟨forPath_eq_escapesBase_iff hbase, fun job hj => ?_⟩
  rw [← dotFree_pathPart_iff (dotFree_of_hasDotSegment ((of_forPath hj).1 hbase))]
  by_cases hb : Origin.basePath origin = []
  · rw [confined_of_basePath_eq_nil ho hb hj, and_iff_right (.inl hb)]
  · rw [confined_of_basePath_ne_nil ho hb hj, or_iff_right hb]

theorem exists_of_targetPath {path : Bytes}
    (h : (forPath origin m pq headers body).toOption.map (fun j => j.target.path) = some path) :
    ∃ job, forPath origin m pq headers body = .ok job ∧ job.target.path = path := by
  obtain ⟨job, hj, hp⟩ := Option.map_eq_some_iff.mp h
  exact ⟨job, eq_ok_of_toOption hj, hp⟩

def walled : Url where
  scheme := Bytes.ofString "http"
  host := some (.v4 0x0A000001)
  port := some 8000
  path := Bytes.ofString "/base"

theorem parse_walled : Origin.parse "http://10.0.0.1:8000/base" = .ok walled := eq_ok_of_toOption (by decide)

/-- A dot segment with a fragment behind it leads out of the base path, and a text without a slash leads past it. -/
theorem led_out_of_base : Origin.parse "http://10.0.0.1:8000/base" = .ok walled ∧ walled.path ≠ [0x2F] ∧
    (∃ job, forPath walled .get (Bytes.ofString "/..#") [] [] = .ok job ∧
      job.target.path = Bytes.ofString "/base/.." ∧ ¬Confined walled job.target.path) ∧
    ∃ job, forPath walled .get (Bytes.ofString "x") [] [] = .ok job ∧
      job.target.path = Bytes.ofString "/basex" ∧ ¬Confined walled job.target.path := by
  refine ⟨parse_walled, by decide, ?_, ?_⟩
  · obtain ⟨job, hj, hp⟩ := @exists_of_targetPath walled .get [] [] (Bytes.ofString "/..#") (Bytes.ofString "/base/..")
      (by decide)
    refine ⟨job, hj, hp, fun hc => ?_⟩
    have hdots : Url.IsDots (Bytes.ofString "..") := .inr (by decide)
    have hfree := hc.dotFree
    rw [hp] at hfree
    exact hfree _ (by decide) hdots
  · obtain ⟨job, hj, hp⟩ := @exists_of_targetPath walled .get [] [] (Bytes.ofString "x") (Bytes.ofString "/basex")
      (by decide)
    refine ⟨job, hj, hp, fun hc => ?_⟩
    obtain ⟨below, he, hbelow⟩ := hc.below
    have hbase : Bytes.ofString "/basex" = Origin.basePath walled ++ Bytes.ofString "x" := by decide
    obtain rfl := List.append_cancel_left (hbase.symm.trans (hp.symm.trans he))
    exact absurd hbelow (by decide)

theorem confined_unless_cut_short_walled :
    (∃ job, forPath walled .get (Bytes.ofString "/v1?next=/../") [] [] = .ok job ∧
      job.target.path = Bytes.ofString "/base/v1" ∧ Confined walled job.target.path) ∧
    (∃ job, forPath walled .get (Bytes.ofString "/a/%2E.#") [] [] = .ok job ∧ ¬Confined walled job.target.path) ∧
    forPath walled .get (Bytes.ofString "/a/%2E./b") [] [] = .error .escapesBase := by
  have hp : walled.path ≠ [0x2F] := by decide
  refine ⟨?_, ?_, ?_⟩
  · obtain ⟨job, hj, hpath⟩ := @exists_of_targetPath walled .get [] [] (Bytes.ofString "/v1?next=/../")
      (Bytes.ofString "/base/v1") (by decide)
    have hjoins : Joins (Bytes.ofString "/v1?next=/../") := .inr (by decide)
    exact ⟨job, hj, hpath, ((confined_unless_cut_short parse_walled hp _ _ _ _).2 job hj).mpr
      ⟨.inr hjoins, not_cutShort (by decide)⟩⟩
  · obtain ⟨job, hj, -⟩ := @exists_of_targetPath walled .get [] [] (Bytes.ofString "/a/%2E.#")
      (Bytes.ofString "/base/a/%2E.") (by decide)
    have hcut : CutShort (Bytes.ofString "/a/%2E.#") :=
      ⟨Bytes.ofString "/a", Bytes.ofString "%2E.", [], by decide +kernel, by decide +kernel, by decide +kernel,
        .inr (by decide)⟩
    exact ⟨job, hj, fun hc => (((confined_unless_cut_short parse_walled hp _ _ _ _).2 job hj).mp hc).2 hcut⟩
  · refine (confined_unless_cut_short parse_walled hp _ _ _ _).1.mpr fun hfree => ?_
    have hdots : Url.IsDots (Bytes.ofString "%2E.") := .inr (by decide)
    exact hfree _ (by decide) hdots

end Job

end Turnstile
