import Mathlib.Data.List.TakeDrop
import Turnstile.Http.Uri

namespace Turnstile.Http.Uri

variable {s t authority rest : Bytes} {u : Uri}

theorem span_path (s : Bytes) : ∃ path tail, s.span (fun b => b != question && b != hash) = (path, tail) ∧
    s = path ++ tail ∧ question ∉ path ∧ hash ∉ path ∧ ∀ b, tail.head? = some b → b = question ∨ b = hash := by
  have hfront : ∀ b ∈ s.takeWhile (fun b => b != question && b != hash), b ≠ question ∧ b ≠ hash := by
    intro b hb
    simpa using List.all_eq_true.mp List.all_takeWhile b hb
  refine ⟨_, _, List.span_eq_takeWhile_dropWhile _ s, List.takeWhile_append_dropWhile.symm,
    fun hm => (hfront _ hm).1 rfl, fun hm => (hfront _ hm).2 rfl, ?_⟩
  intro b hb
  have hn := List.head?_dropWhile_not (fun b => b != question && b != hash) s
  rw [hb] at hn
  exact Decidable.or_iff_not_imp_left.mpr (by simpa using hn)

theorem takeWhile_query (s : Bytes) :
    hash ∉ s.takeWhile (· != hash) ∧ (s.dropWhile (· != hash) = [] ∨ hash ∈ s.dropWhile (· != hash)) := by
  constructor
  · intro hm
    simpa using List.all_eq_true.mp List.all_takeWhile hash hm
  · have hn := List.head?_dropWhile_not (· != hash) s
    cases hd : s.dropWhile (· != hash) with
    | nil => exact .inl rfl
    | cons c after =>
      rw [hd] at hn
      obtain rfl : c = hash := by simpa using hn
      exact .inr List.mem_cons_self

theorem of_splitPath (h : splitPath s = .ok (u.rawPath, u.query)) :
    question ∉ u.rawPath ∧ hash ∉ u.rawPath ++ u.queryText ∧
      ∃ fragment, s = u.rawPath ++ u.queryText ++ fragment ∧ (fragment = [] ∨ hash ∈ fragment) := by
  obtain ⟨path, tail, hspan, rfl, hquestion, hhash, htail⟩ := span_path s
  unfold splitPath at h
  rw [hspan] at h
  dsimp only at h
  split at h
  · cases h
  split at h
  · split at h
    · obtain ⟨hp, hq⟩ := Prod.mk.inj (Except.ok.inj h)
      simp [queryText, ← hp, ← hq, hquestion, hhash]
    · cases h
  next b rest =>
  split at h
  · next hb =>
    split at h
    · obtain ⟨hp, hq⟩ := Prod.mk.inj (Except.ok.inj h)
      obtain ⟨hquery, hfragment⟩ := takeWhile_query rest
      have hne : hash ≠ question := by decide
      refine ⟨by rwa [← hp], by simp [queryText, ← hp, ← hq, hhash, hquery, hne], _, ?_, hfragment⟩
      simp [queryText, ← hp, ← hq, hb]
    · cases h
  · next hb =>
    obtain rfl : b = hash := (htail b rfl).resolve_left hb
    split at h
    · obtain ⟨hp, hq⟩ := Prod.mk.inj (Except.ok.inj h)
      simp [queryText, ← hp, ← hq, hquestion, hhash]
    · cases h

theorem rawPath_append_queryText (h : splitPath s = .ok (u.rawPath, u.query)) (hh : hash ∉ s) :
    u.rawPath ++ u.queryText = s := by
  obtain ⟨-, -, fragment, he, rfl | hf⟩ := of_splitPath h
  · rw [he, List.append_nil]
  · exact absurd (he ▸ List.mem_append_right _ hf) hh

theorem of_parseFull (h : parseFull t = .ok u) : (u.scheme = none ∧ u.rawPath = [] ∧ u.query = none) ∨
    ((u.scheme.isSome = true ∨ u.authority = []) ∧ ∃ s, splitPath s = .ok (u.rawPath, u.query)) := by
  unfold parseFull at h
  simp only [bind, Except.bind] at h
  split at h
  · cases h
  split at h
  · cases h
  split at h
  · split at h
    · cases h
      exact .inl ⟨rfl, rfl, rfl⟩
    · cases h
  split at h
  · cases h
  split at h
  · cases h
  next hs =>
  cases h
  exact .inr ⟨.inl rfl, _, hs⟩

/-- A target is an authority alone, or it has a path and a query; with these an authority follows a scheme. -/
theorem of_parse (h : parse t = .ok u) : (u.scheme = none ∧ u.rawPath = [] ∧ u.query = none) ∨
    ((u.scheme.isSome = true ∨ u.authority = []) ∧ ∃ s, splitPath s = .ok (u.rawPath, u.query)) := by
  unfold parse at h
  split at h
  · cases h
  split at h
  · cases h
  · split at h
    · cases h
      exact .inr ⟨.inr rfl, [slash], rfl⟩
    split at h
    · next hb =>
      subst hb
      cases h
      exact .inr ⟨.inr rfl, [0x2A], rfl⟩
    split at h
    · cases h
    split at h
    · cases h
      exact .inl ⟨rfl, rfl, rfl⟩
    · cases h
  split at h
  · split at h
    · cases h
    · next hs =>
      cases h
      exact .inr ⟨.inr rfl, _, hs⟩
  · exact of_parseFull h

theorem span_append {p : UInt8 → Bool} {front : Bytes} (hf : ∀ b ∈ front, p b = true)
    (hr : ∀ b, rest.head? = some b → p b = false) : (front ++ rest).span p = (front, rest) := by
  rw [List.span_eq_takeWhile_dropWhile, List.takeWhile_append_of_pos hf, List.dropWhile_append_of_pos hf]
  cases rest with
  | nil => simp
  | cons b rest => simp [hr b rfl]

theorem span_endsAuthority (ha : ∀ b ∈ authority, endsAuthority b = false)
    (hr : ∀ b, rest.head? = some b → endsAuthority b = true) :
    (authority ++ rest).span (fun b => !endsAuthority b) = (authority, rest) := by
  apply span_append
  · exact fun b hb => by rw [ha b hb]; rfl
  · exact fun b hb => by rw [hr b hb]; rfl

theorem of_splitAuthority {a r : Bytes} (ha : ∀ b ∈ authority, endsAuthority b = false)
    (hr : ∀ b, rest.head? = some b → endsAuthority b = true) (h : splitAuthority (authority ++ rest) = .ok (a, r)) :
    a = authority ∧ r = rest := by
  unfold splitAuthority at h
  rw [span_endsAuthority ha hr] at h
  dsimp only at h
  split at h
  · cases h
  split at h
  · cases h
  · cases h
    exact ⟨rfl, rfl⟩

theorem splitScheme_http {scheme : Bytes} (hs : scheme = Bytes.ofString "http" ∨ scheme = Bytes.ofString "https")
    (rest : Bytes) : splitScheme (scheme ++ Bytes.ofString "://" ++ rest) = .ok (some scheme, rest) := by
  unfold splitScheme
  obtain rfl | rfl := hs
  · have hlong : Bytes.ofString "http" ++ Bytes.ofString "://" = [0x68, 0x74, 0x74, 0x70, 0x3A, 0x2F, 0x2F] := by decide
    have hhttp : Bytes.ofString "http://" = [0x68, 0x74, 0x74, 0x70, 0x3A, 0x2F, 0x2F] := by decide
    rw [hlong, hhttp]
    exact if_pos rfl
  · have hlong : Bytes.ofString "https" ++ Bytes.ofString "://" = [0x68, 0x74, 0x74, 0x70, 0x73, 0x3A, 0x2F, 0x2F] := by
      decide
    have hhttps : Bytes.ofString "https://" = [0x68, 0x74, 0x74, 0x70, 0x73, 0x3A, 0x2F, 0x2F] := by decide
    rw [hlong, hhttps]
    rw [if_neg (of_decide_eq_false rfl)]
    exact if_pos rfl

/-- A target that begins with one of the schemes of origins is read as what stands behind the scheme. -/
theorem parse_http {scheme : Bytes} (hs : scheme = Bytes.ofString "http" ∨ scheme = Bytes.ofString "https")
    (hl : (scheme ++ Bytes.ofString "://" ++ rest).length ≤ maxLength) :
    parse (scheme ++ Bytes.ofString "://" ++ rest) = (do
      let (authority, rest) ← splitAuthority rest
      if authority.isEmpty then .error .badFormat
      else
        let (path, query) ← splitPath rest
        .ok ⟨some scheme, authority, path, query⟩) := by
  have hfull : parse (scheme ++ Bytes.ofString "://" ++ rest) = parseFull (scheme ++ Bytes.ofString "://" ++ rest) := by
    obtain ⟨tail, ht⟩ : ∃ tail, scheme ++ Bytes.ofString "://" ++ rest = 0x68 :: 0x74 :: tail := by
      obtain rfl | rfl := hs <;> exact ⟨_, rfl⟩
    rw [ht] at hl ⊢
    unfold parse
    rw [if_neg (Nat.not_lt.mpr hl)]
    exact if_neg (by decide)
  rw [hfull, parseFull, splitScheme_http hs]
  rfl

theorem length_of_parse (h : parse t = .ok u) : t.length ≤ maxLength := by
  unfold parse at h
  split at h
  · cases h
  · next hl => exact Nat.not_lt.mp hl

/-- A target with a scheme in front has the authority and the path that it is made of. -/
theorem of_parse_http {scheme : Bytes} (hs : scheme = Bytes.ofString "http" ∨ scheme = Bytes.ofString "https")
    (ha : ∀ b ∈ authority, endsAuthority b = false) (hr : ∀ b, rest.head? = some b → endsAuthority b = true)
    (h : parse (scheme ++ Bytes.ofString "://" ++ (authority ++ rest)) = .ok u) :
    u.scheme = some scheme ∧ u.authority = authority ∧ splitPath rest = .ok (u.rawPath, u.query) := by
  rw [parse_http hs (length_of_parse h)] at h
  simp only [bind, Except.bind] at h
  split at h
  · cases h
  next hsplit =>
  obtain ⟨h1, h2⟩ := of_splitAuthority ha hr hsplit
  split at h
  · cases h
  split at h
  · cases h
  next hpath =>
  cases h
  exact ⟨rfl, h1, h2 ▸ hpath⟩

theorem takeWhile_rawPath (h : question ∉ u.rawPath) :
    (u.rawPath ++ u.queryText).takeWhile (· != question) = u.rawPath := by
  have hraw : ∀ b ∈ u.rawPath, (b != question) = true := fun b hb => bne_iff_ne.mpr fun he => h (he ▸ hb)
  rw [List.takeWhile_append_of_pos hraw, queryText]
  cases u.query <;> simp

/-- A text that begins with a query has a slash for its path. -/
def rooted (s : Bytes) : Bytes := if s.head? = some question then slash :: s else s

theorem path_of_scheme (hs : u.scheme.isSome = true) : u.path = if u.rawPath.isEmpty then [slash] else u.rawPath := by
  rw [path, hasPath, hs]
  rfl

theorem path_ne_nil (hs : u.scheme.isSome = true) : u.path ≠ [] := by
  rw [path_of_scheme hs]
  split
  · exact List.cons_ne_nil _ _
  · next he => exact mt List.isEmpty_iff.mpr he

theorem path_append_queryText (hs : u.scheme.isSome = true) (hq : question ∉ u.rawPath)
    (hne : u.rawPath ++ u.queryText ≠ []) : u.path ++ u.queryText = rooted (u.rawPath ++ u.queryText) := by
  rw [path_of_scheme hs]
  cases hraw : u.rawPath with
  | nil =>
    cases hquery : u.query with
    | none => simp [hraw, queryText, hquery] at hne
    | some q => simp [rooted, queryText, hquery]
  | cons b rest =>
    have hb : b ≠ question := by
      rintro rfl
      exact hq (hraw ▸ List.mem_cons_self)
    simp [rooted, hb]

end Turnstile.Http.Uri
