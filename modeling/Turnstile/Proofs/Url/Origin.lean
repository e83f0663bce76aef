import Turnstile.Origin
import Turnstile.Proofs.Url.Host
import Turnstile.Proofs.Url.Path

namespace Turnstile

open Url (Unbroken)

namespace Url

/-- What the parts of a URL are that was read with an authority in a common scheme. -/
structure Regular (u : Url) : Prop where
  username : ∃ cs, u.username = Percent.encode Percent.inUserinfo cs
  password : ∀ p, u.password = some p → ∃ cs, p = Percent.encode Percent.inUserinfo cs
  host : ∃ h, u.host = some h ∧ h.Sound
  path : IsRooted u.path

/-- The authority of a URL ends where its path begins. -/
structure Separable (u : Url) : Prop where
  authority : Unbroken u.authority
  authority_ne_nil : u.authority ≠ []
  path : IsRooted u.path

theorem Regular.hostText {u : Url} (h : u.Regular) : ∃ host : Host, host.Sound ∧ u.hostText = host.text := by
  obtain ⟨host, he, hs⟩ := h.host
  exact ⟨host, hs, by rw [Url.hostText, he]⟩

theorem Regular.unbroken_userinfo {u : Url} (h : u.Regular) : Unbroken u.userinfo := by
  have hcolon : Http.Uri.endsAuthority 0x3A = false := by decide
  have hat : Http.Uri.endsAuthority 0x40 = false := by decide
  obtain ⟨cs, hn⟩ := h.username
  have hname : Unbroken u.username := hn ▸ Percent.unbroken_encode_inUserinfo cs
  unfold userinfo
  split
  · next p hp =>
    obtain ⟨ds, rfl⟩ := h.password p hp
    simp [hname, Percent.unbroken_encode_inUserinfo, hcolon, hat]
  · split
    · exact .nil
    · simp [hname, hat]

theorem unbroken_portText (u : Url) : Unbroken u.portText := by
  have hcolon : Http.Uri.endsAuthority 0x3A = false := by decide
  unfold portText
  split
  · exact Unbroken.cons_iff.mpr ⟨hcolon, unbroken_toDigits _ (by decide) (by decide)⟩
  · exact .nil

theorem Regular.separable {u : Url} (h : u.Regular) : u.Separable := by
  obtain ⟨host, hs, htext⟩ := h.hostText
  constructor
  case authority =>
    simp only [Url.authority, Unbroken.append_iff, htext]
    exact ⟨⟨h.unbroken_userinfo, hs.unbroken⟩, unbroken_portText u⟩
  case authority_ne_nil => simp [Url.authority, htext, hs.text_ne_nil]
  case path => exact h.path

namespace Reader

theorem encoded_readUserinfo (cs : List Char) :
    (∃ ds, (readUserinfo cs).1 = Percent.encode Percent.inUserinfo ds) ∧
      ∀ p, (readUserinfo cs).2 = some p → ∃ ds, p = Percent.encode Percent.inUserinfo ds := by
  unfold readUserinfo
  dsimp only
  split
  · exact ⟨⟨_, rfl⟩, nofun⟩
  · refine ⟨⟨_, rfl⟩, ?_⟩
    rintro p ⟨⟩
    exact ⟨_, rfl⟩
  · exact ⟨⟨_, rfl⟩, nofun⟩

theorem encoded_of_readInfo {authority place : List Char} {atEnd : Bool} {name : Bytes} {password : Option Bytes}
    (h : readInfo authority atEnd = .ok (name, password, place)) :
    (∃ cs, name = Percent.encode Percent.inUserinfo cs) ∧
      ∀ p, password = some p → ∃ cs, p = Percent.encode Percent.inUserinfo cs := by
  have hnil : ∃ cs, [] = Percent.encode Percent.inUserinfo cs := ⟨[], rfl⟩
  unfold readInfo at h
  split at h
  · cases h
    exact ⟨hnil, nofun⟩
  split at h
  · split at h
    · cases h
    · cases h
      exact ⟨hnil, nofun⟩
  · cases h
    exact encoded_readUserinfo _

theorem isEmptyHost_eq_false {host : Host} (h : host.text ≠ []) : isEmptyHost host = false := by
  cases host with
  | domain name => simpa [isEmptyHost, Host.text] using h
  | v4 => rfl
  | v6 => rfl

theorem of_readAuthority {scheme : Bytes} {cs : List Char} {u : Url} (h : readAuthority scheme cs = .ok u) :
    u.scheme = scheme ∧ (isCommon scheme = true → u.Regular) := by
  unfold readAuthority at h
  simp only [bind, Except.bind] at h
  split at h
  · cases h
  next info hinfo =>
  split at h
  · cases h
  next host hhost =>
  split at h
  · cases h
  next port hport =>
  split at h
  · cases h
  cases h
  refine ⟨rfl, fun hc => ?_⟩
  obtain ⟨hname, hpassword⟩ := encoded_of_readInfo hinfo
  have hsound : host.Sound := by
    simp only [readHost, hc, Bool.not_true, Bool.false_eq_true, if_false] at hhost
    split at hhost
    · cases hhost
    · exact Host.sound_of_parse hhost
  rw [isEmptyHost_eq_false hsound.text_ne_nil, hc]
  exact ⟨hname, hpassword, ⟨host, rfl, hsound⟩, isRooted_pathAfterHost _⟩

theorem scheme_of_readFile {scheme : Bytes} {cs : List Char} {u : Url} (h : readFile scheme cs = .ok u) :
    u.scheme = scheme := by
  unfold readFile at h
  simp only [bind, Except.bind] at h
  split at h
  · cases h
  · cases h
    rfl

theorem regular_of_read {cs : List Char} {u : Url} (h : read cs = .ok u) (hc : isCommon u.scheme = true) :
    u.Regular := by
  unfold read at h
  dsimp only at h
  split at h
  · cases h
  next scheme rest _ =>
  split at h
  · next hf =>
    rw [scheme_of_readFile h, hf] at hc
    exact absurd hc (by decide)
  split at h
  · next hs => exact (of_readAuthority h).2 hs
  · next hs =>
    have hscheme : u.scheme = scheme := by
      split at h
      · exact (of_readAuthority h).1
      · cases h
        rfl
    exact absurd (hscheme ▸ hc) hs

end Reader

end Url

namespace Origin

theorem isHttp_iff {scheme : Bytes} :
    isHttp scheme = true ↔ scheme = Bytes.ofString "http" ∨ scheme = Bytes.ofString "https" := by
  simp [isHttp]

theorem isCommon_of_isHttp {scheme : Bytes} (h : isHttp scheme = true) : Url.Reader.isCommon scheme = true := by
  obtain rfl | rfl := isHttp_iff.mp h
  all_goals decide

theorem regular_of_parse {s : String} {u : Url} (h : parse s = .ok u) :
    isHttp u.scheme = true ∧ u.Regular ∧ u.query = none ∧ u.fragment = none := by
  unfold parse at h
  split at h
  · cases h
  split at h
  · cases h
  next v hv =>
  split at h
  · cases h
  next hscheme =>
  split at h
  · cases h
  split at h
  · cases h
  next hend =>
  cases h
  have hhttp : isHttp u.scheme = true := by simpa using hscheme
  obtain ⟨hquery, hfragment⟩ : u.query = none ∧ u.fragment = none := by simpa using hend
  exact ⟨hhttp, Url.Reader.regular_of_read hv (isCommon_of_isHttp hhttp), hquery, hfragment⟩

theorem of_parse {s : String} {u : Url} (h : parse s = .ok u) :
    isHttp u.scheme = true ∧ u.Separable ∧ u.text = u.scheme ++ Bytes.ofString "://" ++ u.authority ++ u.path := by
  obtain ⟨hhttp, hr, hquery, hfragment⟩ := regular_of_parse h
  refine ⟨hhttp, hr.separable, ?_⟩
  obtain ⟨host, hhost, -⟩ := hr.host
  have hsep : Bytes.ofString "://" = 0x3A :: Bytes.ofString "//" := by decide
  have hauth : u.authorityText = Bytes.ofString "//" ++ u.authority := by
    rw [Url.authorityText, hhost, if_pos Option.isSome_some]
  simp [Url.text, Url.queryText, Url.fragmentText, hquery, hfragment, hauth, hsep]

/-- The path of an origin without the slashes at its end. -/
def basePath (u : Url) : Bytes := Bytes.dropEnd (· = 0x2F) u.path

/-- A base path is nothing or begins with a slash, and it holds neither a query nor a fragment. -/
theorem of_basePath {u : Url} (hs : u.Separable) :
    (basePath u = [] ∨ (basePath u).head? = some Http.Uri.slash) ∧
      ∀ b ∈ basePath u, b ≠ Http.Uri.question ∧ b ≠ Http.Uri.hash := by
  obtain ⟨tail, he, -⟩ := Bytes.exists_eq_dropEnd_append (· = 0x2F) u.path
  change u.path = basePath u ++ tail at he
  constructor
  · have hhead := hs.path.head
    rw [he] at hhead
    cases hb : basePath u with
    | nil => exact .inl rfl
    | cons b rest =>
      rw [hb] at hhead
      exact .inr hhead
  · exact fun b hb => hs.path.whole b (he ▸ List.mem_append_left tail hb)

theorem endsAuthority_of_head? {u : Url} {pq : Bytes} (hs : u.Separable)
    (hpq : pq.head? = some Http.Uri.slash ∨ pq.head? = some Http.Uri.question) :
    ∀ b, (basePath u ++ pq).head? = some b → Http.Uri.endsAuthority b = true := by
  intro b hb
  rw [Url.endsAuthority_eq_true_iff]
  obtain hbase | hbase := (of_basePath hs).1
  · rw [hbase, List.nil_append] at hb
    rw [hb, Option.some.injEq, Option.some.injEq] at hpq
    exact hpq.imp_right .inl
  · rw [List.head?_append, hbase, Option.some_or] at hb
    exact .inl (Option.some.inj hb).symm

theorem octets_basePath {u : Url} (hs : u.Separable) :
    ∀ b ∈ basePath u, Http.Uri.isPathOctet b = true ∧ b < 0x80 := by
  obtain ⟨tail, he, -⟩ := Bytes.exists_eq_dropEnd_append (· = 0x2F) u.path
  change u.path = basePath u ++ tail at he
  exact fun b hb => hs.path.octets b (he ▸ List.mem_append_left tail hb)

theorem base_eq {s : String} {u : Url} (h : parse s = .ok u) :
    base u = u.scheme ++ Bytes.ofString "://" ++ u.authority ++ basePath u := by
  obtain ⟨-, hs, ht⟩ := of_parse h
  rw [base, ht]
  apply Bytes.dropEnd_append
  intro b hb
  rw [List.getLast?_append, List.getLast?_eq_some_getLast hs.authority_ne_nil, Option.some_or] at hb
  obtain rfl := Option.some.inj hb
  exact decide_eq_false (hs.authority.ne_of_mem (List.getLast_mem _) (by decide))

end Origin

end Turnstile
