import Turnstile.Proofs.Http.Spelling
import Turnstile.Proofs.Url.Origin

namespace Turnstile

open Http
open Http.Uri (isMute isPlain isAuthorityOctet Scan)

namespace Url

/-- The octets of domain names that no authority of a request target has. -/
def isForeign (b : UInt8) : Bool := Bytes.isOneOf "\"\x60\x7b\x7d" b

theorem isPlain_of_mem_digits : ∀ b ∈ digits, isPlain b = true := by decide +kernel

end Url

namespace Host.Domain

/-- Of the octets of a name the scan of an authority notices the foreign ones alone. -/
theorem of_mem_toBytes {spelled : List Nat} (h : ∀ c ∈ spelled, Allowed c) :
    ∀ b ∈ toBytes spelled, isMute b = true ∧ isAuthorityOctet b = !Url.isForeign b := by
  have hall : ∀ c < 128, isForbidden c = false → isMute (UInt8.ofNat c) = true ∧
      isAuthorityOctet (UInt8.ofNat c) = !Url.isForeign (UInt8.ofNat c) := by decide
  intro b hb
  obtain ⟨c, hc, rfl⟩ := List.mem_map.mp hb
  exact hall c (h c hc).1 (h c hc).2

end Host.Domain

namespace Host.Ip

open Url (isPlain_of_mem_digits)

theorem count_joined_le (groups : List Nat) : (joined groups).count colon ≤ groups.length := by
  induction groups with
  | nil => exact Nat.le_refl 0
  | cons n rest ih =>
    have hn : (hexText n).count colon = 0 := by
      have hp : ∀ b ∈ hexText n, b ≠ colon :=
        Url.forall_mem_toDigits n (by decide) (by decide) (by decide +kernel)
      exact List.count_eq_zero.mpr fun hm => hp colon hm rfl
    cases rest with
    | nil =>
      have hj : joined [n] = hexText n := by simp [joined]
      rw [hj, hn]
      exact Nat.zero_le _
    | cons m rest =>
      have hj : joined (n :: m :: rest) = hexText n ++ [colon] ++ joined (m :: rest) := by
        simp [joined, List.intercalate_cons_cons]
      rw [hj, List.count_append, List.count_append, hn, List.count_singleton_self, List.length_cons]
      omega

theorem foldl_longer {p : Nat × Nat → Prop} {rows : List (Nat × Nat)} (best : Nat × Nat) (hb : p best)
    (hr : ∀ r ∈ rows, p r) : p (rows.foldl (fun best r => if r.2 > best.2 then r else best) best) := by
  induction rows generalizing best with
  | nil => exact hb
  | cons r rows ih =>
    obtain ⟨hr, hrest⟩ := List.forall_mem_cons.mp hr
    refine ih _ ?_ hrest
    dsimp only
    split
    · exact hr
    · exact hb

/-- The row that is left out is at least two groups long and lies within the eight. -/
theorem of_longestRun {groups : List Nat} {start length : Nat} (hl : groups.length = 8)
    (h : longestRun groups = some (start, length)) : 2 ≤ length ∧ start + length ≤ 8 := by
  have hrows : ∀ r ∈ (List.range 8).map fun i => (i, zeroRun (groups.drop i)), r.1 + r.2 ≤ 8 := by
    intro r hr
    obtain ⟨i, hi, rfl⟩ := List.mem_map.mp hr
    have hz : zeroRun (groups.drop i) ≤ (groups.drop i).length := (List.takeWhile_sublist _).length_le
    rw [List.length_drop, hl] at hz
    have hi := List.mem_range.mp hi
    dsimp only
    omega
  have hbest := foldl_longer (p := fun r => r.1 + r.2 ≤ 8) (0, 0) (by decide) hrows
  unfold longestRun at h
  dsimp only at h
  split at h
  · next htwo =>
    rw [Option.some.inj h] at htwo hbest
    exact ⟨htwo, hbest⟩
  · cases h

theorem count_v6Text_le {groups : List Nat} (hl : groups.length = 8) : (v6Text groups).count colon ≤ 8 := by
  unfold v6Text
  split
  · exact hl ▸ count_joined_le groups
  · next start length hr =>
    obtain ⟨htwo, hwithin⟩ := of_longestRun hl hr
    have hfront := count_joined_le (groups.take start)
    have hback := count_joined_le (groups.drop (start + length))
    rw [List.length_take] at hfront
    rw [List.length_drop] at hback
    have hgap : [colon, colon].count colon = 2 := by decide
    rw [List.count_append, List.count_append, hgap]
    omega

end Host.Ip

namespace Url

open Turnstile.Host

theorem Percent.octets_encode_inUserinfo (cs : List Char) :
    ∀ b ∈ encode inUserinfo cs, isPlain b = true ∨ b = Uri.percent := by
  have hall : ∀ b : UInt8, b < 0x80 → inUserinfo b = false → isPlain b = true ∨ b = Uri.percent := by
    intro b hb
    exact Bytes.forall_ascii (p := fun b => inUserinfo b = false → isPlain b = true ∨ b = Uri.percent)
      (by decide) hb
  apply forall_mem_encode
  · exact .inr rfl
  · decide
  · exact fun b _ hs hb => hall b hb hs

namespace Host.Sound

variable {h : Host}

theorem at_not_mem_text (hs : h.Sound) : Uri.at_ ∉ h.text := by
  have hdigits : ∀ b ∈ digits, b ≠ Uri.at_ := by decide +kernel
  cases h with
  | domain name =>
    obtain ⟨-, spelled, rfl, ha⟩ := hs
    exact fun hm => absurd (Domain.of_mem_toBytes ha _ hm).1 (by decide)
  | v4 n => exact fun hm => Ip.forall_mem_v4Text n (by decide) hdigits _ hm rfl
  | v6 groups =>
    have hv : Uri.at_ ∉ Ip.v6Text groups := fun hm => Ip.forall_mem_v6Text groups (by decide) hdigits _ hm rfl
    have hbrackets : Uri.at_ ≠ 0x5B ∧ Uri.at_ ≠ 0x5D := by decide
    simp [text, hv, hbrackets]

theorem exists_of_isForeign (hs : h.Sound) (hf : ∃ b ∈ h.text, isForeign b = true) :
    ∃ spelled, h.text = Domain.toBytes spelled ∧ ∀ c ∈ spelled, Domain.Allowed c := by
  have hdigits : ∀ b ∈ digits, isForeign b = false := by decide +kernel
  obtain ⟨b, hb, hf⟩ := hf
  cases h with
  | domain name =>
    obtain ⟨-, spelled, rfl, ha⟩ := hs
    exact ⟨spelled, rfl, ha⟩
  | v4 n =>
    rw [Ip.forall_mem_v4Text n (by decide) hdigits b hb] at hf
    cases hf
  | v6 groups =>
    have hv : ∀ b ∈ (v6 groups).text, isForeign b = false := by
      have hopen : isForeign 0x5B = false := by decide
      have hclose : isForeign 0x5D = false := by decide
      rw [text, List.forall_mem_append, List.forall_mem_cons, List.forall_mem_singleton]
      exact ⟨⟨hopen, Ip.forall_mem_v6Text groups (by decide) hdigits⟩, hclose⟩
    rw [hv b hb] at hf
    cases hf

theorem run_text_of_isForeign (hs : h.Sound) (hf : ∃ b ∈ h.text, isForeign b = true) (s : Scan) :
    Scan.run s h.text = .error .badCharacter := by
  obtain ⟨spelled, he, ha⟩ := hs.exists_of_isForeign hf
  rw [he] at hf ⊢
  have hname := Domain.of_mem_toBytes ha
  rw [Scan.run_of_isMute fun b hb => (hname b hb).1]
  apply if_neg
  obtain ⟨b, hb, hf⟩ := hf
  intro hall
  have hb' := List.all_eq_true.mp hall b hb
  rw [(hname b hb).2, hf] at hb'
  cases hb'

theorem run_text (hs : h.Sound) (hf : ∀ b ∈ h.text, isForeign b = false) :
    ∃ bracketed, Scan.run {} h.text = .ok { opened := bracketed, closed := bracketed } := by
  cases h with
  | domain name =>
    obtain ⟨-, spelled, rfl, ha⟩ := hs
    refine ⟨false, Scan.run_of_isPlain ?_⟩
    intro b hb
    obtain ⟨hm, hauthority⟩ := Domain.of_mem_toBytes ha b hb
    rw [isPlain, hm, hauthority, hf b hb]
    rfl
  | v4 n => exact ⟨false, Scan.run_of_isPlain (Ip.forall_mem_v4Text n (by decide) isPlain_of_mem_digits)⟩
  | v6 groups =>
    refine ⟨true, ?_⟩
    have hoctets : ∀ b ∈ Ip.v6Text groups, isPlain b = true ∨ b = Uri.colon :=
      Ip.forall_mem_v6Text groups (.inr rfl) fun b hb => .inl (isPlain_of_mem_digits b hb)
    have hcount : (Ip.v6Text groups).count Uri.colon ≤ 8 := Ip.count_v6Text_le hs
    have hopen : Scan.run {} [0x5B] = .ok { opened := true } := rfl
    have hinside := Scan.run_of_colons (s := { opened := true }) hoctets (by simpa using hcount)
    have htext : (v6 groups).text = [0x5B] ++ Ip.v6Text groups ++ [0x5D] := rfl
    rw [htext, Scan.run_append, Scan.run_append, hopen, Except.bind, hinside]
    rfl

end Host.Sound

theorem Regular.run_userinfo {u : Url} (h : u.Regular) : Scan.run {} u.userinfo = .ok {} := by
  obtain ⟨cs, hname⟩ := h.username
  obtain ⟨p, hname⟩ : ∃ p, Scan.run {} u.username = .ok { percent := p } :=
    Scan.run_of_escaped (hname ▸ Percent.octets_encode_inUserinfo cs)
  unfold userinfo
  split
  · next password hp =>
    obtain ⟨ds, rfl⟩ := h.password password hp
    obtain ⟨q, hpassword⟩ := @Scan.run_of_escaped { colons := 1, percent := p } _ (Percent.octets_encode_inUserinfo ds)
    have hcolon : Scan.run { percent := p } (0x3A :: Percent.encode Percent.inUserinfo ds) =
        .ok { colons := 1, percent := q } := hpassword
    rw [Scan.run_append, Scan.run_append, hname, Except.bind, hcolon]
    rfl
  · split
    · rfl
    · rw [Scan.run_append, hname]
      rfl

theorem at_not_mem_portText (u : Url) : Uri.at_ ∉ u.portText := by
  unfold portText
  split
  · next n _ =>
    have hdigits : ∀ b ∈ Bytes.ofNat n, b ≠ Uri.at_ :=
      forall_mem_toDigits n (by decide) (by decide) (by decide +kernel)
    have hcolon : Uri.at_ ≠ 0x3A := by decide
    exact fun hm => (List.mem_cons.mp hm).elim hcolon fun hm => hdigits _ hm rfl
  · exact List.not_mem_nil

theorem run_portText (u : Url) (bracketed : Bool) : ∃ n ≤ 1,
    Scan.run { opened := bracketed, closed := bracketed } u.portText =
      .ok { colons := n, opened := bracketed, closed := bracketed } := by
  unfold portText
  split
  · next n _ =>
    have hplain : ∀ b ∈ Bytes.ofNat n, isPlain b = true :=
      forall_mem_toDigits n (by decide) (by decide) isPlain_of_mem_digits
    refine ⟨1, Nat.le_refl 1, ?_⟩
    exact Scan.run_of_isPlain (s := { colons := 1, opened := bracketed, closed := bracketed }) hplain
  · exact ⟨0, Nat.zero_le 1, rfl⟩

variable {u : Url} {rest : Bytes}

theorem Regular.run_authority (h : u.Regular) (hf : ∀ b ∈ u.hostText, isForeign b = false) : ∃ bracketed, ∃ n ≤ 1,
    Scan.run {} u.authority = .ok { colons := n, opened := bracketed, closed := bracketed } := by
  obtain ⟨host, hs, htext⟩ := h.hostText
  obtain ⟨bracketed, hhost⟩ := hs.run_text (htext ▸ hf)
  obtain ⟨n, hn, hport⟩ := u.run_portText bracketed
  refine ⟨bracketed, n, hn, ?_⟩
  rw [authority, Scan.run_append, Scan.run_append, h.run_userinfo, htext, Except.bind, hhost]
  exact hport

/-- Nothing of an authority can be mistaken, if its host has no foreign octet. -/
theorem Regular.splitAuthority_eq (h : u.Regular) (hf : ∀ b ∈ u.hostText, isForeign b = false)
    (hr : ∀ b, rest.head? = some b → Uri.endsAuthority b = true) :
    Uri.splitAuthority (u.authority ++ rest) = .ok (u.authority, rest) := by
  obtain ⟨host, hs, htext⟩ := h.hostText
  obtain ⟨bracketed, n, hn, hrun⟩ := h.run_authority hf
  apply Uri.splitAuthority_of_run h.separable.authority hr hrun rfl hn rfl
  intro hlast
  have hne : host.text ++ u.portText ≠ [] := by simp [hs.text_ne_nil]
  rw [authority, htext, List.append_assoc, List.getLast?_append, List.getLast?_eq_some_getLast hne,
    Option.some_or] at hlast
  have hmem : Uri.at_ ∈ host.text ++ u.portText := Option.some.inj hlast ▸ List.getLast_mem hne
  exact (List.mem_append.mp hmem).elim hs.at_not_mem_text u.at_not_mem_portText

theorem Regular.splitAuthority_eq_error (h : u.Regular) (hf : ∃ b ∈ u.hostText, isForeign b = true)
    (hr : ∀ b, rest.head? = some b → Uri.endsAuthority b = true) :
    Uri.splitAuthority (u.authority ++ rest) = .error .badCharacter := by
  obtain ⟨host, hs, htext⟩ := h.hostText
  have hrun : Scan.run {} u.authority = .error .badCharacter := by
    rw [authority, Scan.run_append, Scan.run_append, h.run_userinfo, Except.bind, htext,
      hs.run_text_of_isForeign (htext ▸ hf)]
    rfl
  exact Uri.splitAuthority_of_error h.separable.authority hr hrun

end Url

end Turnstile
