import Turnstile.Proofs.Url.Unbroken

namespace Turnstile

namespace Host.Punycode

theorem threshold_bounds (place bias : Nat) : 1 ≤ threshold place bias ∧ threshold place bias ≤ 26 := by
  unfold threshold
  split
  · omega
  split <;> omega

/-- A distance bounds the number of its digits, since the first takes at least one from it. -/
theorem digit_of_mem_writeDistance {bias fuel place q c : Nat} (hq : q ≤ fuel)
    (h : c ∈ writeDistance bias fuel place q) : ∃ n < 36, c = digit n := by
  -- the threshold is at least one, so what is left of the distance stays within the fuel that is left
  induction fuel generalizing place q with
  | zero => exact ⟨q, by omega, by simpa [writeDistance] using h⟩
  | succ fuel ih =>
    obtain ⟨hl, hu⟩ := threshold_bounds place bias
    rw [writeDistance] at h
    split at h
    · exact ⟨q, by omega, by simpa using h⟩
    · next hn =>
      obtain rfl | h := List.mem_cons.mp h
      · have hm : (q - threshold place bias) % (36 - threshold place bias) < 36 - threshold place bias :=
          Nat.mod_lt _ (by omega)
        exact ⟨_, by omega, rfl⟩
      · have hd : (q - threshold place bias) / (36 - threshold place bias) ≤ q - threshold place bias :=
          Nat.div_le_self _ _
        exact ih (by omega) h

theorem digit_of_mem_pass {basic n c x : Nat} {p : Progress} (h : x ∈ (p.pass basic n c).written) :
    x ∈ p.written ∨ ∃ k < 36, x = digit k := by
  unfold Progress.pass at h
  split at h
  · exact .inl h
  split at h
  · obtain h | h := List.mem_append.mp h
    · exact .inl h
    · exact .inr (digit_of_mem_writeDistance (Nat.le_refl _) h)
  · exact .inl h

theorem digit_of_mem_foldl_pass {basic n x : Nat} {cs : List Nat} {p : Progress}
    (h : x ∈ (cs.foldl (Progress.pass basic n) p).written) : x ∈ p.written ∨ ∃ k < 36, x = digit k := by
  induction cs generalizing p with
  | nil => exact .inl h
  | cons c cs ih =>
    obtain h | h := ih h
    · exact digit_of_mem_pass h
    · exact .inr h

theorem digit_of_mem_encodeFrom {cs : List Nat} {basic fuel n x : Nat} {p : Progress}
    (h : x ∈ (encodeFrom cs basic fuel n p).written) : x ∈ p.written ∨ ∃ k < 36, x = digit k := by
  induction fuel generalizing n p with
  | zero => exact .inl h
  | succ fuel ih =>
    rw [encodeFrom] at h
    split at h
    · exact .inl h
    · obtain h | h := ih h
      · have hp := digit_of_mem_foldl_pass h
        exact hp
      · exact .inr h

/-- A label in Punycode has the ASCII characters of the label, a hyphen, and digits. -/
theorem of_mem_encode {cs : List Nat} {x : Nat} (h : x ∈ encode cs) :
    (x ∈ cs ∧ x < 128) ∨ x = 0x2D ∨ ∃ k < 36, x = digit k := by
  obtain h | h := List.mem_append.mp h
  · split at h
    · cases h
    · obtain h | h := List.mem_append.mp h
      · exact .inl (by simpa using h)
      · exact .inr (.inl (by simpa using h))
  · exact .inr (.inr ((digit_of_mem_encodeFrom h).resolve_left nofun))

end Host.Punycode

namespace Host.Domain

theorem exists_of_mem_mapM {α β : Type} {f : α → Option β} {xs : List α} {ys : List β} {y : β}
    (h : xs.mapM f = some ys) (hy : y ∈ ys) : ∃ x ∈ xs, f x = some y := by
  induction xs generalizing ys with
  | nil =>
    cases h
    cases hy
  | cons x xs ih =>
    simp only [List.mapM_cons, Option.bind_eq_bind, Option.bind_eq_some_iff, Option.pure_def, Option.some.injEq] at h
    obtain ⟨z, hz, zs, hzs, rfl⟩ := h
    obtain rfl | hy := List.mem_cons.mp hy
    · exact ⟨x, by simp, hz⟩
    · obtain ⟨w, hw, hf⟩ := ih hzs hy
      exact ⟨w, List.mem_cons_of_mem _ hw, hf⟩

/-- The characters of names in ASCII. -/
def Allowed (c : Nat) : Prop := c < 128 ∧ isForbidden c = false

theorem allowed_lowerAscii {c : Nat} (h : Allowed c) : Allowed (lowerAscii c) := by
  have hall : ∀ c < 128, isForbidden c = false → lowerAscii c < 128 ∧ isForbidden (lowerAscii c) = false := by
    decide
  exact hall c h.1 h.2

theorem allowed_digit {n : Nat} (h : n < 36) : Allowed (Punycode.digit n) := by
  have hall : ∀ n < 36, Punycode.digit n < 128 ∧ isForbidden (Punycode.digit n) = false := by decide
  exact hall n h

theorem unbroken_toBytes {cs : List Nat} (h : ∀ c ∈ cs, Allowed c) : Url.Unbroken (toBytes cs) := by
  have hall : ∀ c < 128, isForbidden c = false → Http.Uri.endsAuthority (UInt8.ofNat c) = false := by decide
  intro b hb
  obtain ⟨c, hc, rfl⟩ := List.mem_map.mp hb
  exact hall c (h c hc).1 (h c hc).2

theorem allowed_of_writeLabel? {label written : List Nat} (hl : label.any isForbidden = false)
    (hw : writeLabel? label = some written) : ∀ c ∈ written, Allowed c := by
  have hf : ∀ c ∈ label, isForbidden c = false := by simpa using hl
  unfold writeLabel? at hw
  split at hw
  · next ha =>
    cases hw
    exact fun c hc => ⟨by simpa using List.all_eq_true.mp ha c hc, hf c hc⟩
  split at hw
  · cases hw
    intro c hc
    obtain hc | hc := List.mem_append.mp hc
    · have hmark : ∀ c ∈ punycodeMark, c < 128 ∧ isForbidden c = false := by decide
      exact hmark c hc
    · obtain ⟨hc, ha⟩ | rfl | ⟨k, hk, rfl⟩ := Punycode.of_mem_encode hc
      · exact ⟨ha, hf c hc⟩
      · exact ⟨by decide, by decide⟩
      · exact allowed_digit hk
  · cases hw

theorem allowed_of_toAscii? {cs : List Nat} {name : Bytes} (h : toAscii? cs = some name) :
    ∃ spelled, name = toBytes spelled ∧ ∀ c ∈ spelled, Allowed c := by
  unfold toAscii? at h
  split at h
  · next hp =>
    split at h
    · cases h
    · next hf =>
      have hf : ∀ c ∈ cs, isForbidden c = false := by simpa using hf
      cases h
      refine ⟨_, rfl, ?_⟩
      intro c hc
      obtain ⟨d, hd, rfl⟩ := List.mem_map.mp hc
      have ha : isAscii cs = true := (Bool.and_eq_true_iff.mp hp).1
      exact allowed_lowerAscii ⟨by simpa using List.all_eq_true.mp ha d hd, hf d hd⟩
  · simp only [Option.bind_eq_bind, Option.bind_eq_some_iff] at h
    obtain ⟨folded, -, labels, -, h⟩ := h
    split at h
    · cases h
    · next hf =>
      have hf : ∀ label ∈ labels, label.any isForbidden = false := by simpa using hf
      split at h
      · cases h
      · simp only [Option.bind_eq_some_iff, Option.some.injEq] at h
        obtain ⟨written, hw, rfl⟩ := h
        refine ⟨_, rfl, ?_⟩
        have hdot : ∀ c ∈ [dot], Allowed c := List.forall_mem_singleton.mpr ⟨by decide, by decide⟩
        apply forall_mem_intercalate hdot
        intro part hp
        obtain ⟨label, hl, hw⟩ := exists_of_mem_mapM hw hp
        exact allowed_of_writeLabel? (hf label hl) hw

end Host.Domain

namespace Host.Ip

open Url (Unbroken)

variable {p : UInt8 → Prop}

theorem forall_mem_v4Text (n : Nat) (hdot : p dot) (hd : ∀ b ∈ Url.digits, p b) : ∀ b ∈ v4Text n, p b := by
  apply forall_mem_intercalate
  · exact List.forall_mem_singleton.mpr hdot
  · intro part hp
    obtain ⟨m, -, rfl⟩ := List.mem_map.mp hp
    exact Url.forall_mem_toDigits m (by decide) (by decide) hd

theorem v4Text_ne_nil (n : Nat) : v4Text n ≠ [] := by
  simp [v4Text, List.intercalate_cons_cons]

theorem forall_mem_joined (groups : List Nat) (hcolon : p colon) (hd : ∀ b ∈ Url.digits, p b) :
    ∀ b ∈ joined groups, p b := by
  apply forall_mem_intercalate
  · exact List.forall_mem_singleton.mpr hcolon
  · intro part hp
    obtain ⟨m, -, rfl⟩ := List.mem_map.mp hp
    exact Url.forall_mem_toDigits m (by decide) (by decide) hd

theorem forall_mem_v6Text (groups : List Nat) (hcolon : p colon) (hd : ∀ b ∈ Url.digits, p b) :
    ∀ b ∈ v6Text groups, p b := by
  unfold v6Text
  split
  · exact forall_mem_joined groups hcolon hd
  · rw [List.forall_mem_append, List.forall_mem_append]
    have hgap : ∀ b ∈ [colon, colon], p b := List.forall_mem_cons.mpr ⟨hcolon, List.forall_mem_singleton.mpr hcolon⟩
    exact ⟨⟨forall_mem_joined _ hcolon hd, hgap⟩, forall_mem_joined _ hcolon hd⟩

theorem Groups.length_push (g : Groups) (n : Nat) : (g.push n).values.length = g.values.length + 1 := by
  rw [push, List.length_append, List.length_singleton]

theorem length_groupsFrom {fuel : Nat} {g g' : Groups} {s : Bytes} (h : groupsFrom fuel g s = some g')
    (hg : g.values.length ≤ 8) : g'.values.length ≤ 8 := by
  fun_induction groupsFrom fuel g s with
  | case1 =>
    cases h
    exact hg
  | case5 fuel g rest hn _ ih =>
    -- the gap counts as a group
    apply ih h
    change (g.push 0).values.length ≤ 8
    rw [Groups.length_push]
    omega
  | case6 fuel g b rest hn =>
    cases h
    rw [Groups.length_push]
    omega
  | case8 fuel g b rest hn _ _ _ hroom =>
    cases h
    rw [Groups.length_push, Groups.length_push]
    simp only [Bool.or_eq_true, decide_eq_true_eq, not_or] at hroom
    omega
  | case11 fuel g b rest hn _ _ _ _ _ _ _ ih =>
    apply ih h
    rw [Groups.length_push]
    omega
  | _ => cases h

theorem length_v6? {s : Bytes} {groups : List Nat} (h : v6? s = some groups) : groups.length = 8 := by
  unfold v6? at h
  split at h
  · split at h <;> try split at h
    -- however the text begins, the groups that were read from it are stretched
    all_goals
      obtain ⟨g, hg, h⟩ := Option.bind_eq_some_iff.mp h
      have hl : g.values.length ≤ 8 := by
        first
        | exact length_groupsFrom hg (by decide)
        | cases hg
      dsimp only at h
      split at h
      · split at h
        · cases h
          assumption
        · cases h
      · cases h
        simp only [List.length_append, List.length_take, List.length_drop, List.length_replicate]
        omega
  · cases h

end Host.Ip

namespace Url.Host

open Turnstile.Host

/-- What the hosts of the common schemes are made of. -/
def Sound : Host → Prop
  | domain name => name ≠ [] ∧ ∃ spelled, name = Domain.toBytes spelled ∧ ∀ c ∈ spelled, Domain.Allowed c
  | v4 _ => True
  | v6 groups => groups.length = 8

theorem sound_of_bracketed? {cs : List Char} {h : Host} (hb : bracketed? cs = some (.ok h)) : h.Sound := by
  unfold bracketed? at hb
  split at hb
  · split at hb
    · split at hb
      · next hv =>
        cases hb
        exact Ip.length_v6? hv
      · cases hb
    · cases hb
  · cases hb

theorem sound_of_parse {cs : List Char} {h : Host} (hp : parse cs = .ok h) : h.Sound := by
  unfold parse at hp
  split at hp
  · next hb =>
    subst hp
    exact sound_of_bracketed? hb
  · split at hp
    · cases hp
    · next name hn =>
      obtain ⟨characters, -, hn⟩ := Option.bind_eq_some_iff.mp hn
      split at hp
      · cases hp
      · next hne =>
        split at hp
        · split at hp
          · cases hp
            trivial
          · cases hp
        · cases hp
          exact ⟨mt List.isEmpty_iff.mpr hne, Domain.allowed_of_toAscii? hn⟩

theorem Sound.text_ne_nil {h : Host} (hs : h.Sound) : h.text ≠ [] := by
  cases h with
  | domain name => exact hs.1
  | v4 n => exact Ip.v4Text_ne_nil n
  | v6 groups => exact List.cons_ne_nil _ _

theorem Sound.unbroken {h : Host} (hs : h.Sound) : Unbroken h.text := by
  cases h with
  | domain name =>
    obtain ⟨-, spelled, rfl, ha⟩ := hs
    exact Domain.unbroken_toBytes ha
  | v4 n => exact Ip.forall_mem_v4Text n (by decide) unbroken_digits
  | v6 groups =>
    have ho : Http.Uri.endsAuthority 0x5B = false := by decide
    have hc : Http.Uri.endsAuthority 0x5D = false := by decide
    have hv : Unbroken (Ip.v6Text groups) := Ip.forall_mem_v6Text groups (by decide) unbroken_digits
    simp [text, ho, hc, hv]

end Url.Host

end Turnstile
