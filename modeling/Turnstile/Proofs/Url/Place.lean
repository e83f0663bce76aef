import Turnstile.Proofs.Text.Decimal
import Turnstile.Proofs.Url.Authority

namespace Turnstile

open Http

namespace Http.Uri

variable {sep x : UInt8} {s front back name tail : Bytes} {p : Nat} {target : Uri}

/-- What stands before the end of the last octet of a kind. -/
def uptoLast (sep : UInt8) (s : Bytes) : Bytes := (s.reverse.dropWhile (· != sep)).reverse

theorem afterLast_append (h : sep ∉ back) : afterLast sep (front ++ back) = afterLast sep front ++ back := by
  have hback : ∀ b ∈ back.reverse, (b != sep) = true := fun b hb =>
    bne_iff_ne.mpr fun he => h (he ▸ List.mem_reverse.mp hb)
  rw [afterLast, List.reverse_append, List.takeWhile_append_of_pos hback, List.reverse_append, List.reverse_reverse]
  rfl

theorem uptoLast_append (h : sep ∉ back) : uptoLast sep (front ++ back) = uptoLast sep front := by
  have hback : ∀ b ∈ back.reverse, (b != sep) = true := fun b hb =>
    bne_iff_ne.mpr fun he => h (he ▸ List.mem_reverse.mp hb)
  rw [uptoLast, List.reverse_append, List.dropWhile_append_of_pos hback]
  rfl

theorem last_of_getLast? (h : front = [] ∨ front.getLast? = some sep) :
    afterLast sep front = [] ∧ uptoLast sep front = front := by
  obtain rfl | h := h
  · exact ⟨rfl, rfl⟩
  · obtain ⟨rest, rfl⟩ := List.getLast?_eq_some_iff.mp h
    simp [afterLast, uptoLast]

/-- The octet that stands for a server as a whole. -/
def asterisk : UInt8 := 0x2A

/-- The user information with the `@` behind it. -/
def userinfo (u : Uri) : Bytes := uptoLast at_ u.authority

theorem host_of_bracketed (h : afterLast at_ target.authority = openBracket :: name ++ closeBracket :: tail)
    (hn : closeBracket ∉ name) : target.host = some (openBracket :: name ++ [closeBracket]) := by
  have hne : target.authority.isEmpty = false := by
    rw [List.isEmpty_eq_false_iff]
    intro he
    rw [he] at h
    cases h
  have hstop : ∀ b ∈ openBracket :: name, (b != closeBracket) = true := by
    rintro b hb
    rw [bne_iff_ne]
    rintro rfl
    exact (List.mem_cons.mp hb).elim (by decide) hn
  have htake : (openBracket :: name ++ closeBracket :: tail).takeWhile (· != closeBracket) = openBracket :: name := by
    rw [List.takeWhile_append_of_pos hstop]
    simp
  have hhead : (openBracket :: name ++ closeBracket :: tail).head? = some openBracket := rfl
  rw [host, hne, h]
  simp only [hhead, htake, if_true, if_false, Bool.false_eq_true]

theorem host_of_named (h : afterLast at_ target.authority = name ++ tail) (hne : name ≠ [])
    (hn : openBracket ∉ name ∧ colon ∉ name) (ht : tail = [] ∨ tail.head? = some colon) :
    target.host = some name := by
  have hempty : target.authority.isEmpty = false := by
    rw [List.isEmpty_eq_false_iff]
    intro he
    rw [he] at h
    exact hne (List.append_eq_nil_iff.mp h.symm).1
  have hhead : (name ++ tail).head? ≠ some openBracket := by
    obtain ⟨b, rest, rfl⟩ := List.exists_cons_of_ne_nil hne
    intro he
    exact hn.1 (Option.some.inj he ▸ List.mem_cons_self)
  have hstop : ∀ b ∈ name, (b != colon) = true := fun b hb => bne_iff_ne.mpr fun he => hn.2 (he ▸ hb)
  have htake : (name ++ tail).takeWhile (· != colon) = name := by
    rw [List.takeWhile_append_of_pos hstop]
    obtain rfl | ht := ht
    · exact List.append_nil name
    · obtain ⟨rest, rfl⟩ := List.head?_eq_some_iff.mp ht
      simp
  rw [host, hempty, h]
  simp only [hhead, htake, if_false, Bool.false_eq_true]

theorem port_of_number (front : Bytes) (h : target.authority = front ++ colon :: Bytes.ofNat p) (hp : p < 65536) :
    target.port = some p := by
  have hdigits : ∀ b ∈ Bytes.ofNat p, b ≠ colon ∧ b ≠ 0x2B :=
    Url.forall_mem_toDigits p (by decide) (by decide) (by decide +kernel)
  have hafter : afterLast colon target.authority = Bytes.ofNat p := by
    rw [h, List.append_cons, afterLast_append fun hm => (hdigits _ hm).1 rfl,
      (last_of_getLast? (.inr (by simp))).1, List.nil_append]
  have hsign : (Bytes.ofNat p).head? ≠ some 0x2B := fun he => (hdigits _ (List.mem_of_mem_head? he)).2 rfl
  have hcolon : target.authority.contains colon = true := by simp [h]
  simp only [port, hcolon, hafter, hsign, if_true, if_false, Bytes.toNat?_ofNat, hp]

theorem port_eq_none (front : Bytes) (h : target.authority = front ++ x :: back) (hx : Bytes.isDigit x = false)
    (hsign : x ≠ 0x2B) (hc : colon ∉ x :: back) : target.port = none := by
  have hafter : afterLast colon target.authority = afterLast colon front ++ x :: back := by rw [h, afterLast_append hc]
  have hnone : ∀ digits : Bytes, x ∈ digits → Bytes.toNat? digits = none := by
    intro digits hm
    have hall : digits.all Bytes.isDigit = false := by
      rw [List.all_eq_false]
      exact ⟨x, hm, by rw [hx]; exact Bool.false_ne_true⟩
    rw [Bytes.toNat?, hall, Bool.not_false, Bool.or_true, if_pos rfl]
  have hm : x ∈ afterLast colon target.authority := by simp [hafter]
  have hdrop : (afterLast colon target.authority).head? = some 0x2B → x ∈ (afterLast colon target.authority).drop 1 := by
    intro he
    obtain ⟨rest, hr⟩ := List.head?_eq_some_iff.mp he
    rw [hr] at hm ⊢
    exact (List.mem_cons.mp hm).resolve_left hsign
  have hsigned : x ∈ if (afterLast colon target.authority).head? = some 0x2B then
      (afterLast colon target.authority).drop 1 else afterLast colon target.authority := by
    split
    · next he => exact hdrop he
    · exact hm
  simp only [port, hnone _ hsigned, ite_self]

end Http.Uri

namespace Url

namespace Reader

theorem port_lt_of_readAfterHost {scheme : Bytes} {host : Host} {cs tail : List Char} {p : Nat}
    (h : readAfterHost scheme host cs = .ok (some p, tail)) : p < 65536 := by
  unfold readAfterHost at h
  split at h
  · cases h
  split at h
  · cases h
  unfold readPort at h
  dsimp only at h
  split at h
  · cases h
  next hn =>
  split at h
  · cases h
  · cases h
    simp only [Bool.or_eq_true, decide_eq_true_eq, not_or] at hn
    omega

theorem port_lt_of_readAuthority {scheme : Bytes} {cs : List Char} {u : Url} {p : Nat}
    (h : readAuthority scheme cs = .ok u) (hp : u.port = some p) : p < 65536 := by
  unfold readAuthority at h
  simp only [bind, Except.bind] at h
  split at h
  · cases h
  split at h
  · cases h
  split at h
  · cases h
  next after hafter =>
  split at h
  · cases h
  cases h
  obtain ⟨port, tail⟩ := after
  obtain rfl : port = some p := hp
  exact port_lt_of_readAfterHost hafter

theorem port_of_readFile {scheme : Bytes} {cs : List Char} {u : Url} (h : readFile scheme cs = .ok u) :
    u.port = none := by
  unfold readFile at h
  simp only [bind, Except.bind] at h
  split at h
  · cases h
  · cases h
    rfl

theorem port_lt_of_read {cs : List Char} {u : Url} {p : Nat} (h : read cs = .ok u) (hp : u.port = some p) :
    p < 65536 := by
  unfold read at h
  dsimp only at h
  split at h
  · cases h
  split at h
  · rw [port_of_readFile h] at hp
    cases hp
  split at h
  · exact port_lt_of_readAuthority h hp
  split at h
  · exact port_lt_of_readAuthority h hp
  · cases h
    cases hp

end Reader

theorem Host.text_v6 (groups : List Nat) :
    (Host.v6 groups).text = Uri.openBracket :: Host.Ip.v6Text groups ++ [Uri.closeBracket] := rfl

theorem Host.Sound.named {h : Host} (hs : h.Sound) (hv : ∀ groups, h ≠ .v6 groups) :
    Uri.openBracket ∉ h.text ∧ Uri.colon ∉ h.text := by
  have hmute : ∀ b ∈ h.text, Uri.isMute b = true := by
    cases h with
    | domain name =>
      obtain ⟨-, spelled, rfl, ha⟩ := hs
      exact fun b hb => (Host.Domain.of_mem_toBytes ha b hb).1
    | v4 n => exact Host.Ip.forall_mem_v4Text n (by decide) (by decide +kernel)
    | v6 groups => exact absurd rfl (hv groups)
  exact ⟨fun hm => absurd (hmute _ hm) (by decide), fun hm => absurd (hmute _ hm) (by decide)⟩

theorem at_of_userinfo (u : Url) : u.userinfo = [] ∨ u.userinfo.getLast? = some Uri.at_ := by
  unfold userinfo
  split
  · exact .inr List.getLast?_concat
  · split
    · exact .inl rfl
    · exact .inr List.getLast?_concat

/-- What scheme, user information, host and port a target has that is bound for a URL. -/
structure Aimed (u : Url) (target : Uri) : Prop where
  scheme : target.scheme = some u.scheme
  userinfo : target.userinfo = u.userinfo
  host : target.host = some u.hostText
  port : target.port = u.port

namespace Regular

variable {u : Url} {target : Uri} {tail : Bytes}

theorem exists_host (h : u.Regular) : ∃ host : Host, u.host = some host ∧ u.hostText = host.text ∧ host.Sound := by
  obtain ⟨host, hhost, hs⟩ := h.host
  exact ⟨host, hhost, by rw [Url.hostText, hhost], hs⟩

theorem place (h : u.Regular) (ht : Uri.at_ ∉ tail) (ha : target.authority = u.authority ++ tail) :
    target.userinfo = u.userinfo ∧ Uri.afterLast Uri.at_ target.authority = u.hostText ++ u.portText ++ tail := by
  obtain ⟨host, hs, htext⟩ := h.hostText
  have hback : Uri.at_ ∉ u.hostText ++ u.portText ++ tail := by
    simp [htext, hs.at_not_mem_text, at_not_mem_portText, ht]
  obtain ⟨hafter, hupto⟩ := Uri.last_of_getLast? u.at_of_userinfo
  rw [authority, List.append_assoc, List.append_assoc, ← List.append_assoc u.hostText] at ha
  constructor
  · rw [Uri.userinfo, ha, Uri.uptoLast_append hback, hupto]
  · rw [ha, Uri.afterLast_append hback, hafter, List.nil_append]

theorem host_eq (h : u.Regular) (ht : Uri.at_ ∉ tail) (ha : target.authority = u.authority ++ tail)
    (hb : tail = [] ∨ ∃ groups, u.host = some (.v6 groups)) : target.host = some u.hostText := by
  obtain ⟨host, hhost, htext, hs⟩ := h.exists_host
  have hplace := (h.place ht ha).2
  rw [htext] at hplace ⊢
  by_cases hv : ∃ groups, host = .v6 groups
  · obtain ⟨groups, rfl⟩ := hv
    have hinner : Uri.closeBracket ∉ Host.Ip.v6Text groups := fun hm =>
      Host.Ip.forall_mem_v6Text (p := (· ≠ Uri.closeBracket)) groups (by decide) (by decide +kernel) _ hm rfl
    rw [Host.text_v6, List.append_assoc, List.append_assoc, List.singleton_append] at hplace
    exact Uri.host_of_bracketed hplace hinner
  · have hnamed := hs.named fun groups he => hv ⟨groups, he⟩
    obtain rfl : tail = [] := hb.resolve_right fun ⟨groups, hg⟩ => hv ⟨groups, Option.some.inj (hhost.symm.trans hg)⟩
    rw [List.append_nil] at hplace
    apply Uri.host_of_named hplace hs.text_ne_nil hnamed
    unfold portText
    split
    · exact .inr rfl
    · exact .inl rfl

theorem port_eq_none (h : u.Regular) (hp : u.port = none) (hcolon : Uri.colon ∉ tail)
    (ha : target.authority = u.authority ++ tail) : target.port = none := by
  obtain ⟨host, hhost, htext, hs⟩ := h.exists_host
  have hport : u.portText = [] := by rw [portText, hp]
  rw [authority, htext, hport, List.append_nil] at ha
  by_cases hv : ∃ groups, host = .v6 groups
  · obtain ⟨groups, rfl⟩ := hv
    have hback : Uri.colon ∉ Uri.closeBracket :: tail := List.not_mem_cons_of_ne_of_not_mem (by decide) hcolon
    apply Uri.port_eq_none (u.userinfo ++ Uri.openBracket :: Host.Ip.v6Text groups) _ _ _ hback
    · rw [ha, Host.text_v6, List.append_assoc, List.append_assoc]
      simp
    · decide
    · decide
  · have hnamed := hs.named fun groups he => hv ⟨groups, he⟩
    have hback : Uri.colon ∉ host.text ++ tail := by simp [hnamed.2, hcolon]
    rw [List.append_assoc] at ha
    obtain hinfo | hinfo := u.at_of_userinfo
    · have hnone : target.authority.contains Uri.colon = false := by simpa [ha, hinfo] using hback
      rw [Uri.port, hnone, if_neg Bool.false_ne_true]
    · obtain ⟨info, hinfo⟩ := List.getLast?_eq_some_iff.mp hinfo
      have hback : Uri.colon ∉ Uri.at_ :: (host.text ++ tail) := List.not_mem_cons_of_ne_of_not_mem (by decide) hback
      apply Uri.port_eq_none info _ _ _ hback
      · simpa [hinfo] using ha
      · decide
      · decide

theorem port_eq (h : u.Regular) (hp : ∀ p, u.port = some p → p < 65536) (ha : target.authority = u.authority) :
    target.port = u.port := by
  cases hport : u.port with
  | none => exact h.port_eq_none hport List.not_mem_nil (by rw [ha, List.append_nil])
  | some p =>
    apply Uri.port_of_number (u.userinfo ++ u.hostText) _ (hp p hport)
    rw [ha, authority, portText, hport]
    rfl

theorem aimed (h : u.Regular) (hp : ∀ p, u.port = some p → p < 65536) (hs : target.scheme = some u.scheme)
    (ha : target.authority = u.authority) : u.Aimed target where
  scheme := hs
  userinfo := (h.place List.not_mem_nil (by rw [ha, List.append_nil])).1
  host := h.host_eq List.not_mem_nil (by rw [ha, List.append_nil]) (.inl rfl)
  port := h.port_eq hp ha

/-- An asterisk at the end of the authority belongs to the port, if there is one, or to the host, unless that stands in
brackets. -/
theorem aimed_asterisk_iff (h : u.Regular) (hs : target.scheme = some u.scheme)
    (ha : target.authority = u.authority ++ [Uri.asterisk]) :
    u.Aimed target ↔ (∃ groups, u.host = some (.v6 groups)) ∧ u.port = none := by
  have hat : Uri.at_ ∉ [Uri.asterisk] := by decide
  have hcolon : Uri.colon ∉ [Uri.asterisk] := by decide
  constructor
  · intro haimed
    have hport : u.port = none := by
      rw [← haimed.port]
      exact Uri.port_eq_none _ ha (by decide) (by decide) hcolon
    refine ⟨?_, hport⟩
    obtain ⟨host, hhost, htext, hsound⟩ := h.exists_host
    by_contra hv
    have hnamed := hsound.named fun groups he => hv ⟨groups, he ▸ hhost⟩
    have hplace := (h.place hat ha).2
    have hnone : u.portText = [] := by rw [portText, hport]
    rw [hnone, htext, List.append_nil, ← List.append_nil (host.text ++ [Uri.asterisk])] at hplace
    have hlonger : target.host = some (host.text ++ [Uri.asterisk]) := by
      apply Uri.host_of_named hplace (by simp) _ (.inl rfl)
      rw [List.mem_append, List.mem_append, not_or, not_or]
      exact ⟨⟨hnamed.1, by decide⟩, hnamed.2, hcolon⟩
    rw [haimed.host, htext] at hlonger
    simp at hlonger
  · rintro ⟨hv, hport⟩
    constructor
    case scheme => exact hs
    case userinfo => exact (h.place hat ha).1
    case host => exact h.host_eq hat ha (.inr hv)
    case port => rw [h.port_eq_none hport hcolon ha, hport]

theorem splitAuthority_asterisk (h : u.Regular) (hf : ∀ b ∈ u.hostText, isForeign b = false) :
    Uri.splitAuthority (u.authority ++ [Uri.asterisk]) = .ok (u.authority ++ [Uri.asterisk], []) := by
  obtain ⟨bracketed, n, hn, hrun⟩ := h.run_authority hf
  have hunbroken : Unbroken (u.authority ++ [Uri.asterisk]) := by
    rw [Unbroken.append_iff, Unbroken.cons_iff]
    exact ⟨h.separable.authority, by decide, .nil⟩
  have hlast : (u.authority ++ [Uri.asterisk]).getLast? ≠ some Uri.at_ := by
    rw [List.getLast?_concat]
    decide
  have hlonger : Uri.Scan.run {} (u.authority ++ [Uri.asterisk]) =
      .ok { colons := n, opened := bracketed, closed := bracketed } := by
    rw [Uri.Scan.run_append, hrun]
    rfl
  have hends : ∀ b, ([] : Bytes).head? = some b → Uri.endsAuthority b = true := nofun
  have hsplit := Uri.splitAuthority_of_run hunbroken hends hlonger rfl hn rfl hlast
  rwa [List.append_nil] at hsplit

end Regular

end Url

theorem Origin.port_lt {s : String} {u : Url} {p : Nat} (h : parse s = .ok u) (hp : u.port = some p) : p < 65536 := by
  unfold parse at h
  split at h
  · cases h
  split at h
  · cases h
  next hv =>
  split at h
  · cases h
  split at h
  · cases h
  split at h
  · cases h
  · cases h
    exact Url.Reader.port_lt_of_read hv hp

end Turnstile
