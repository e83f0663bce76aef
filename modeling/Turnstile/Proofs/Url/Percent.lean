import Turnstile.Url.Percent

namespace Turnstile.Url.Percent

variable {a b c : UInt8} {s w : Bytes} {n high low : Nat}

/-- A hexadecimal digit, in either letter case, and its value. -/
def IsHexDigit (b : UInt8) (n : Nat) : Prop :=
  (Bytes.ofString "0123456789abcdef")[n]? = some b ∨ (Bytes.ofString "0123456789ABCDEF")[n]? = some b

/-- A text that begins with a percent sign and two hexadecimal digits. -/
def BeginsEscape (s : Bytes) : Prop :=
  ∃ a b rest high low, s = percent :: a :: b :: rest ∧ IsHexDigit a high ∧ IsHexDigit b low

/-- What a text decodes to. -/
inductive Decodes : Bytes → Bytes → Prop where
  | nil : Decodes [] []
  | escape {a b : UInt8} {high low : Nat} {s w : Bytes} : IsHexDigit a high → IsHexDigit b low → Decodes s w →
      Decodes (percent :: a :: b :: s) (UInt8.ofNat (high * 16 + low) :: w)
  | plain {c : UInt8} {s w : Bytes} : ¬BeginsEscape (c :: s) → Decodes s w → Decodes (c :: s) (c :: w)

theorem toNat_of_hexValue? (h : Bytes.hexValue? b = some n) :
    (n < 10 ∧ b.toNat = 0x30 + n) ∨ (10 ≤ n ∧ n < 16 ∧ (b.toNat = 0x37 + n ∨ b.toNat = 0x57 + n)) := by
  unfold Bytes.hexValue? Bytes.isDigit at h
  simp only [Bool.and_eq_true, decide_eq_true_eq, UInt8.le_iff_toNat_le, UInt8.reduceToNat] at h
  split at h
  · cases h
    omega
  split at h
  · cases h
    omega
  split at h
  · cases h
    omega
  · cases h

theorem hexValue?_eq_some_iff : Bytes.hexValue? b = some n ↔ IsHexDigit b n := by
  constructor
  · intro h
    have hdecimal : ∀ n < 10, (Bytes.ofString "0123456789abcdef")[n]? = some (UInt8.ofNat (0x30 + n)) := by decide
    have hupper : ∀ n < 16, 10 ≤ n → (Bytes.ofString "0123456789ABCDEF")[n]? = some (UInt8.ofNat (0x37 + n)) := by
      decide
    have hlower : ∀ n < 16, 10 ≤ n → (Bytes.ofString "0123456789abcdef")[n]? = some (UInt8.ofNat (0x57 + n)) := by
      decide
    rw [← UInt8.ofNat_toNat (x := b)]
    obtain ⟨hn, hb⟩ | ⟨hlow, hn, hb | hb⟩ := toNat_of_hexValue? h
    · exact .inl (hb ▸ hdecimal n hn)
    · exact .inr (hb ▸ hupper n hn hlow)
    · exact .inl (hb ▸ hlower n hn hlow)
  · have hlower : ∀ n < 16, ((Bytes.ofString "0123456789abcdef")[n]?.bind Bytes.hexValue?) = some n := by decide
    have hupper : ∀ n < 16, ((Bytes.ofString "0123456789ABCDEF")[n]?.bind Bytes.hexValue?) = some n := by decide
    rintro (h | h)
    · obtain ⟨hn, -⟩ := List.getElem?_eq_some_iff.mp h
      simpa [h] using hlower n hn
    · obtain ⟨hn, -⟩ := List.getElem?_eq_some_iff.mp h
      simpa [h] using hupper n hn

theorem unescape?_eq_some_iff :
    unescape? a b = some c ↔ ∃ high low, IsHexDigit a high ∧ IsHexDigit b low ∧ c = UInt8.ofNat (high * 16 + low) := by
  simp only [unescape?, Option.bind_eq_bind, Option.bind_eq_some_iff, Option.some.injEq, hexValue?_eq_some_iff]
  constructor
  · rintro ⟨high, ha, low, hb, rfl⟩
    exact ⟨high, low, ha, hb, rfl⟩
  · rintro ⟨high, low, ha, hb, rfl⟩
    exact ⟨high, ha, low, hb, rfl⟩

theorem decode_escape (ha : IsHexDigit a high) (hb : IsHexDigit b low) (s : Bytes) :
    decode (percent :: a :: b :: s) = UInt8.ofNat (high * 16 + low) :: decode s := by
  have hc : unescape? a b = some (UInt8.ofNat (high * 16 + low)) :=
    unescape?_eq_some_iff.mpr ⟨high, low, ha, hb, rfl⟩
  simp only [decode, if_true, hc]

theorem decode_plain (h : ¬BeginsEscape (c :: s)) : decode (c :: s) = c :: decode s := by
  match s with
  | [] | [_] => rfl
  | a :: b :: s =>
    rw [decode]
    split
    · next hp =>
      split
      · next d hd =>
        obtain ⟨high, low, ha, hb, -⟩ := unescape?_eq_some_iff.mp hd
        exact absurd ⟨a, b, s, high, low, by rw [hp], ha, hb⟩ h
      · rfl
    · rfl

theorem decodes_decode (s : Bytes) : Decodes s (decode s) := by
  -- on the length, since an escape takes three octets at once
  induction hn : s.length using Nat.strongRecOn generalizing s with
  | ind n ih =>
    subst hn
    cases s with
    | nil => exact .nil
    | cons c s =>
      by_cases h : BeginsEscape (c :: s)
      · obtain ⟨a, b, rest, high, low, he, ha, hb⟩ := h
        rw [he, decode_escape ha hb]
        exact .escape ha hb (ih _ (by simp [he]; omega) rest rfl)
      · rw [decode_plain h]
        exact .plain h (ih _ (by simp) s rfl)

theorem decodes_iff : Decodes s w ↔ decode s = w := by
  constructor
  · intro h
    induction h with
    | nil => rfl
    | escape ha hb _ ih => rw [decode_escape ha hb, ih]
    | plain h _ ih => rw [decode_plain h, ih]
  · rintro rfl
    exact decodes_decode s

end Turnstile.Url.Percent
