import Turnstile.Http.Uri
import Turnstile.Url.Reader

namespace Turnstile

open Http

theorem forall_mem_intercalate {α : Type} {p : α → Prop} {sep : List α} {parts : List (List α)} (hs : ∀ c ∈ sep, p c)
    (hp : ∀ part ∈ parts, ∀ c ∈ part, p c) : ∀ c ∈ sep.intercalate parts, p c := by
  induction parts with
  | nil => nofun
  | cons part rest ih =>
    have hpart : ∀ c ∈ part, p c := hp part (by simp)
    have hrest : ∀ c ∈ sep.intercalate rest, p c := ih fun q hq => hp q (List.mem_cons_of_mem _ hq)
    cases rest with
    | nil => simpa using hpart
    | cons q rest =>
      rw [List.intercalate_cons_cons, List.forall_mem_append, List.forall_mem_append]
      exact ⟨⟨hpart, hs⟩, hrest⟩

namespace Url

/-- No octet of the text ends an authority. -/
def Unbroken (s : Bytes) : Prop := ∀ b ∈ s, Uri.endsAuthority b = false

theorem endsAuthority_eq_true_iff {b : UInt8} :
    Uri.endsAuthority b = true ↔ b = Uri.slash ∨ b = Uri.question ∨ b = Uri.hash := by
  simp [Uri.endsAuthority, or_assoc]

namespace Unbroken

variable {s t : Bytes}

@[simp]
theorem nil : Unbroken [] := nofun

@[simp]
theorem cons_iff {b : UInt8} : Unbroken (b :: s) ↔ Uri.endsAuthority b = false ∧ Unbroken s :=
  List.forall_mem_cons

@[simp]
theorem append_iff : Unbroken (s ++ t) ↔ Unbroken s ∧ Unbroken t := List.forall_mem_append

theorem ne_of_mem {b c : UInt8} (h : Unbroken s) (hb : b ∈ s) (hc : Uri.endsAuthority c = true) : b ≠ c := by
  rintro rfl
  rw [h b hb] at hc
  cases hc

end Unbroken

end Url

namespace Bytes

theorem forall_ascii {p : UInt8 → Prop} (h : ∀ n < 128, p (UInt8.ofNat n)) {b : UInt8} (hb : b < 0x80) : p b := by
  have hp := h b.toNat hb
  rwa [UInt8.ofNat_toNat] at hp

theorem toNat_of_mem_utf8EncodeChar {c : Char} {b : UInt8} (hb : b ∈ String.utf8EncodeChar c) (hl : b < 0x80) :
    c.toNat = b.toNat := by
  have hl : b.toNat < 128 := hl
  have hc : c.toNat = c.val.toNat := rfl
  unfold String.utf8EncodeChar at hb
  dsimp only at hb
  -- every octet of a longer encoding has its highest bit
  split at hb <;> try split at hb <;> try split at hb
  all_goals
    simp only [List.mem_cons, List.not_mem_nil, or_false] at hb
    simp only [← UInt8.toNat_inj, UInt8.toNat_ofNat', Nat.reducePow] at hb
    omega

/-- A character below 128 is one octet, and no other character has that octet in its encoding. -/
theorem mem_of_mem_ofChars {c : Char} {cs : List Char} (hc : c.toNat < 128) (h : UInt8.ofNat c.toNat ∈ ofChars cs) :
    c ∈ cs := by
  obtain ⟨d, hd, hb⟩ := List.mem_flatMap.mp h
  have hn : (UInt8.ofNat c.toNat).toNat = c.toNat := by
    simp only [UInt8.toNat_ofNat']
    omega
  have he : d.toNat = c.toNat := by
    rw [toNat_of_mem_utf8EncodeChar hb (by rw [UInt8.lt_iff_toNat_lt, hn]; exact hc), hn]
  rwa [Char.toNat_inj.mp he] at hd

end Bytes

namespace Url

theorem digitChar_of_mem_toDigits {b n : Nat} {c : Char} (hb : 1 < b) (h : c ∈ Nat.toDigits b n) :
    ∃ k < b, c = Nat.digitChar k := by
  induction n using Nat.strongRecOn with
  | ind n ih =>
    rw [Nat.toDigits_eq_if hb] at h
    split at h
    · next hn => exact ⟨n, hn, by simpa using h⟩
    · next hn =>
      obtain h | h := List.mem_append.mp h
      · exact ih (n / b) (Nat.div_lt_self (by omega) hb) h
      · exact ⟨n % b, Nat.mod_lt _ (by omega), by simpa using h⟩

/-- What numbers are written with in bases up to sixteen. -/
def digits : Bytes := Bytes.ofString "0123456789abcdef"

theorem forall_mem_toDigits {b : Nat} {p : UInt8 → Prop} (n : Nat) (hb : 1 < b) (hl : b ≤ 16)
    (hp : ∀ x ∈ digits, p x) : ∀ x ∈ Bytes.ofChars (Nat.toDigits b n), p x := by
  have hdigit : ∀ k < 16, ∀ x ∈ String.utf8EncodeChar (Nat.digitChar k), x ∈ digits := by decide +kernel
  intro x hx
  obtain ⟨c, hc, hx⟩ := List.mem_flatMap.mp hx
  obtain ⟨k, hk, rfl⟩ := digitChar_of_mem_toDigits hb hc
  exact hp x (hdigit k (by omega) x hx)

theorem unbroken_digits : Unbroken digits := by
  unfold Unbroken
  decide +kernel

theorem unbroken_toDigits {b : Nat} (n : Nat) (hb : 1 < b) (hl : b ≤ 16) :
    Unbroken (Bytes.ofChars (Nat.toDigits b n)) :=
  forall_mem_toDigits n hb hl unbroken_digits

namespace Percent

theorem forall_mem_encode {p : UInt8 → Prop} {set : UInt8 → Bool} {cs : List Char} (hp : p percent)
    (hd : ∀ n < 16, p (hexDigit n)) (h : ∀ b ∈ Bytes.ofChars cs, set b = false → b < 0x80 → p b) :
    ∀ b ∈ encode set cs, p b := by
  intro b hb
  obtain ⟨a, ha, hb⟩ := List.mem_flatMap.mp hb
  unfold encodeOctet at hb
  split at hb
  · have ha : a.toNat < 256 := a.toNat_lt
    simp only [escape, List.mem_cons, List.not_mem_nil, or_false] at hb
    obtain rfl | rfl | rfl := hb
    · exact hp
    · exact hd _ (by omega)
    · exact hd _ (by omega)
  · next hn =>
    obtain rfl : b = a := List.mem_singleton.mp hb
    rw [Bool.not_eq_true, Bool.or_eq_false_iff, decide_eq_false_iff_not, UInt8.not_le] at hn
    exact h b ha hn.1 hn.2

theorem unbroken_encode {set : UInt8 → Bool} {cs : List Char}
    (h : ∀ b ∈ Bytes.ofChars cs, Uri.endsAuthority b = true → set b = true) : Unbroken (encode set cs) := by
  apply forall_mem_encode
  · decide
  · decide
  · intro b hb hs _
    rw [Bool.eq_false_iff]
    intro he
    rw [h b hb he] at hs
    cases hs

theorem unbroken_encode_inUserinfo (cs : List Char) : Unbroken (encode inUserinfo cs) := by
  apply unbroken_encode
  intro b _ he
  obtain rfl | rfl | rfl := endsAuthority_eq_true_iff.mp he <;> decide

theorem unbroken_encode_inPath {cs : List Char} (h : '/' ∉ cs) : Unbroken (encode inPath cs) := by
  apply unbroken_encode
  intro b hb he
  obtain rfl | rfl | rfl := endsAuthority_eq_true_iff.mp he
  · exact absurd (Bytes.mem_of_mem_ofChars (by decide) hb) h
  · decide
  · decide

end Percent

end Url

end Turnstile
