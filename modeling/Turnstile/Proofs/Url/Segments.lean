import Turnstile.Job
import Turnstile.Proofs.Url.Percent

namespace Turnstile.Url

def dot : UInt8 := 0x2E

/-- Whether a segment percent-decodes to one dot or two. -/
def IsDots (segment : Bytes) : Prop := Percent.decode segment = [dot] ∨ Percent.decode segment = [dot, dot]

/-- No segment of the path percent-decodes to one dot or two. -/
def DotFree (path : Bytes) : Prop := ∀ s ∈ path.splitOn Reader.slash, ¬IsDots s

/-- The spellings of a dot. -/
def dotForms : List Bytes := [[dot], [0x25, 0x32, 0x65], [0x25, 0x32, 0x45]]

/-- One dot or two, each of them plain or escaped with a letter of either case. -/
def SpellsDots (segment : Bytes) : Prop :=
  segment ∈ dotForms ∨ ∃ f ∈ dotForms, ∃ g ∈ dotForms, segment = f ++ g

theorem decode_dotForm {f : Bytes} (hf : f ∈ dotForms) (s : Bytes) :
    Percent.decode (f ++ s) = dot :: Percent.decode s := by
  have hd : dot ≠ Percent.percent := by decide
  simp only [dotForms, List.mem_cons, List.not_mem_nil, or_false] at hf
  obtain rfl | rfl | rfl := hf
  · match s with
    | [] | [_] => rfl
    | a :: b :: s => simp only [List.cons_append, List.nil_append, Percent.decode, hd, if_false]
  all_goals rfl

theorem digits_of_dot {a b : UInt8} {high low : Nat} (ha : Percent.IsHexDigit a high) (hb : Percent.IsHexDigit b low)
    (h : UInt8.ofNat (high * 16 + low) = dot) : a = 0x32 ∧ (b = 0x65 ∨ b = 0x45) := by
  have he := congrArg UInt8.toNat h
  simp only [UInt8.toNat_ofNat', dot, UInt8.reduceToNat, Nat.reducePow] at he
  have ha := Percent.toNat_of_hexValue? (Percent.hexValue?_eq_some_iff.mpr ha)
  have hb := Percent.toNat_of_hexValue? (Percent.hexValue?_eq_some_iff.mpr hb)
  simp only [← UInt8.toNat_inj, UInt8.reduceToNat]
  omega

theorem exists_dotForm_of_decode {s w : Bytes} (h : Percent.decode s = dot :: w) :
    ∃ f ∈ dotForms, ∃ t, s = f ++ t ∧ Percent.decode t = w := by
  have hs := Percent.decodes_iff.mpr h
  generalize hv : dot :: w = v at hs
  cases hs with
  | nil => cases hv
  | @escape a b high low t _ ha hb ht =>
    obtain ⟨hdot, rfl⟩ := List.cons.inj hv
    obtain ⟨rfl, hb⟩ := digits_of_dot ha hb hdot.symm
    refine ⟨[0x25, 0x32, b], ?_, t, rfl, Percent.decodes_iff.mp ht⟩
    obtain rfl | rfl := hb <;> decide
  | @plain c t _ hc ht =>
    obtain ⟨rfl, rfl⟩ := List.cons.inj hv
    exact ⟨[dot], by decide, t, rfl, Percent.decodes_iff.mp ht⟩

theorem eq_nil_of_decode {s : Bytes} (h : Percent.decode s = []) : s = [] := by
  cases Percent.decodes_iff.mpr h with
  | nil => rfl

theorem of_lowerOctet {b c : UInt8} (h : Bytes.lowerOctet b = c) :
    b = c ∨ (0x61 ≤ c.toNat ∧ c.toNat = b.toNat + 0x20) := by
  subst h
  unfold Bytes.lowerOctet
  split
  · next hb =>
    simp only [Bool.and_eq_true, decide_eq_true_eq, UInt8.le_iff_toNat_le, UInt8.reduceToNat] at hb
    simp only [UInt8.toNat_add, UInt8.reduceToNat]
    omega
  · exact .inl rfl

theorem exists_dotForm_of_lower {s l : Bytes}
    (h : Bytes.lower s = dot :: l ∨ Bytes.lower s = 0x25 :: 0x32 :: 0x65 :: l) :
    ∃ f ∈ dotForms, ∃ t, s = f ++ t ∧ Bytes.lower t = l := by
  simp only [Bytes.lower, List.map_eq_cons_iff] at h
  obtain ⟨a, t, rfl, ha, ht⟩ | ⟨a, -, rfl, ha, b, -, rfl, hb, c, t, rfl, hc, ht⟩ := h
  · obtain rfl | ⟨hl, -⟩ := of_lowerOctet ha
    · exact ⟨[dot], by decide, t, rfl, ht⟩
    · exact absurd hl (by decide)
  · obtain rfl | ⟨hl, -⟩ := of_lowerOctet ha
    · obtain rfl | ⟨hl, -⟩ := of_lowerOctet hb
      · refine ⟨[0x25, 0x32, c], ?_, t, rfl, ht⟩
        obtain rfl | ⟨-, he⟩ := of_lowerOctet hc
        · decide
        · obtain rfl : c = 0x45 := by
            simp only [← UInt8.toNat_inj, UInt8.reduceToNat] at he ⊢
            omega
          decide
      · exact absurd hl (by decide)
    · exact absurd hl (by decide)

theorem eq_nil_of_lower {s : Bytes} (h : Bytes.lower s = []) : s = [] := List.map_eq_nil_iff.mp h

theorem decode_of_isSingleDot {s : Bytes} (h : Reader.isSingleDot s = true) : Percent.decode s = [dot] := by
  have hl : Bytes.lower s = dot :: [] ∨ Bytes.lower s = 0x25 :: 0x32 :: 0x65 :: [] := by
    obtain ⟨x, hx, he⟩ := List.any_eq_true.mp h
    have he : Bytes.ofString x = Bytes.lower s := of_decide_eq_true he
    simp only [List.mem_cons, List.not_mem_nil, or_false] at hx
    obtain rfl | rfl := hx
    · exact .inl (he.symm.trans (by decide))
    · exact .inr (he.symm.trans (by decide))
  obtain ⟨f, hf, t, rfl, ht⟩ := exists_dotForm_of_lower hl
  rw [eq_nil_of_lower ht, decode_dotForm hf]
  rfl

theorem decode_of_isDoubleDot {s : Bytes} (h : Reader.isDoubleDot s = true) : Percent.decode s = [dot, dot] := by
  have hl : ∃ l, (Bytes.lower s = dot :: l ∨ Bytes.lower s = 0x25 :: 0x32 :: 0x65 :: l) ∧
      (l = dot :: [] ∨ l = 0x25 :: 0x32 :: 0x65 :: []) := by
    obtain ⟨x, hx, he⟩ := List.any_eq_true.mp h
    have he : Bytes.ofString x = Bytes.lower s := of_decide_eq_true he
    simp only [List.mem_cons, List.not_mem_nil, or_false] at hx
    obtain rfl | rfl | rfl | rfl := hx
    · exact ⟨[dot], .inl (he.symm.trans (by decide)), .inl rfl⟩
    · exact ⟨[0x25, 0x32, 0x65], .inl (he.symm.trans (by decide)), .inr rfl⟩
    · exact ⟨[dot], .inr (he.symm.trans (by decide)), .inl rfl⟩
    · exact ⟨[0x25, 0x32, 0x65], .inr (he.symm.trans (by decide)), .inr rfl⟩
  obtain ⟨l, hl, hr⟩ := hl
  obtain ⟨f, hf, t, rfl, rfl⟩ := exists_dotForm_of_lower hl
  obtain ⟨g, hg, u, rfl, hu⟩ := exists_dotForm_of_lower hr
  rw [eq_nil_of_lower hu, decode_dotForm hf, decode_dotForm hg]
  rfl

theorem isDots_iff_spellsDots {s : Bytes} : IsDots s ↔ SpellsDots s := by
  constructor
  · rintro (h | h)
    · obtain ⟨f, hf, t, rfl, ht⟩ := exists_dotForm_of_decode h
      rw [eq_nil_of_decode ht, List.append_nil]
      exact .inl hf
    · obtain ⟨f, hf, t, rfl, ht⟩ := exists_dotForm_of_decode h
      obtain ⟨g, hg, u, rfl, hu⟩ := exists_dotForm_of_decode ht
      rw [eq_nil_of_decode hu, List.append_nil]
      exact .inr ⟨f, hf, g, hg, rfl⟩
  · rintro (h | ⟨f, hf, g, hg, rfl⟩)
    · rw [← List.append_nil s, IsDots, decode_dotForm h]
      exact .inl rfl
    · rw [← List.append_nil g, IsDots, decode_dotForm hf, decode_dotForm hg]
      exact .inr rfl

theorem isDots_iff {s : Bytes} : IsDots s ↔ Reader.isSingleDot s = true ∨ Reader.isDoubleDot s = true := by
  constructor
  · intro h
    have hone : ∀ f ∈ dotForms, Reader.isSingleDot f = true := by decide
    have htwo : ∀ f ∈ dotForms, ∀ g ∈ dotForms, Reader.isDoubleDot (f ++ g) = true := by decide
    obtain h | ⟨f, hf, g, hg, rfl⟩ := isDots_iff_spellsDots.mp h
    · exact .inl (hone s h)
    · exact .inr (htwo f hf g hg)
  · exact Or.imp decode_of_isSingleDot decode_of_isDoubleDot

theorem plainDots_dotForm {f : Bytes} (hf : f ∈ dotForms) (s : Bytes) :
    Job.plainDots (Bytes.lower (f ++ s)) = dot :: Job.plainDots (Bytes.lower s) := by
  simp only [dotForms, List.mem_cons, List.not_mem_nil, or_false] at hf
  obtain rfl | rfl | rfl := hf
  · match s with
    | [] | [_] => rfl
    | _ :: _ :: _ => rfl
  all_goals rfl

theorem exists_of_plainDots {l w : Bytes} (h : Job.plainDots l = dot :: w) :
    ∃ rest, (l = dot :: rest ∨ l = 0x25 :: 0x32 :: 0x65 :: rest) ∧ Job.plainDots rest = w := by
  unfold Job.plainDots at h
  split at h
  · next a b c rest =>
    split at h
    · next hd =>
      simp only [Bool.and_eq_true, decide_eq_true_eq] at hd
      obtain ⟨⟨rfl, rfl⟩, rfl⟩ := hd
      exact ⟨rest, .inr rfl, (List.cons.inj h).2⟩
    · obtain ⟨rfl, hw⟩ := List.cons.inj h
      exact ⟨b :: c :: rest, .inl rfl, hw⟩
  · next hs =>
    subst h
    refine ⟨w, .inl rfl, ?_⟩
    match w, hs with
    | [], _ | [_], _ => rfl
    | a :: b :: w, hs => exact absurd rfl (hs dot a b w)

theorem eq_nil_of_plainDots {l : Bytes} (h : Job.plainDots l = []) : l = [] := by
  unfold Job.plainDots at h
  split at h
  · split at h <;> cases h
  · exact h

theorem plainDots_lower_eq_replicate_iff {n : Nat} {s : Bytes} :
    Job.plainDots (Bytes.lower s) = List.replicate n dot ↔ Percent.decode s = List.replicate n dot := by
  -- each dot in front comes of a spelling of a dot, on either side
  induction n generalizing s with
  | zero =>
    constructor
    · intro h
      rw [eq_nil_of_lower (eq_nil_of_plainDots h)]
      rfl
    · intro h
      rw [eq_nil_of_decode h]
      rfl
  | succ n ih =>
    rw [List.replicate_succ]
    constructor
    · intro h
      obtain ⟨l, hl, hn⟩ := exists_of_plainDots h
      obtain ⟨f, hf, t, rfl, rfl⟩ := exists_dotForm_of_lower hl
      rw [decode_dotForm hf, ih.mp hn]
    · intro h
      obtain ⟨f, hf, t, rfl, ht⟩ := exists_dotForm_of_decode h
      rw [plainDots_dotForm hf, ih.mpr ht]

theorem isDotSegment_iff {s : Bytes} : Job.isDotSegment s = true ↔ IsDots s := by
  have hone := plainDots_lower_eq_replicate_iff (n := 1) (s := s)
  have htwo := plainDots_lower_eq_replicate_iff (n := 2) (s := s)
  rw [Job.isDotSegment, Bool.or_eq_true, decide_eq_true_eq, decide_eq_true_eq]
  exact or_congr hone htwo

theorem hasDotSegment_eq_true_iff {pq : Bytes} : Job.hasDotSegment pq = true ↔
    ∃ s ∈ (pq.takeWhile (· != Http.Uri.question)).splitOn Http.Uri.slash, IsDots s := by
  simp only [← isDotSegment_iff]
  exact List.any_eq_true

end Turnstile.Url
