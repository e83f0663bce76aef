import Mathlib.Data.List.Basic
import Turnstile.Proofs.Text.Utf8

namespace Turnstile

theorem isDigit_toDigits (n : Nat) : ∀ c ∈ Nat.toDigits 10 n, c.isDigit = true := fun _ hc =>
  Nat.isDigit_of_mem_toDigits (by decide) (by decide) hc

theorem foldl_toDigits (n : Nat) : (Nat.toDigits 10 n).foldl (fun n c => n * 10 + (c.toNat - 48)) 0 = n := by
  have h := Nat.ofDigitChars_ten_toDigits (n := n)
  have hzero : '0'.toNat = 48 := rfl
  rw [Nat.ofDigitChars_eq_foldl] at h
  simpa only [Nat.mul_comm, hzero] using h

namespace Bytes

variable {c : Char} {cs : List Char}

theorem toNat_of_isDigit (h : c.isDigit = true) : 48 ≤ c.toNat ∧ c.toNat ≤ 57 := by
  simp only [Char.isDigit, Bool.and_eq_true, decide_eq_true_eq, UInt32.le_iff_toNat_le] at h
  exact h

theorem isDigit_octet (h : c.isDigit = true) : isDigit (UInt8.ofNat c.toNat) = true := by
  obtain ⟨hl, hu⟩ := toNat_of_isDigit h
  have hn := toNat_octet (n := c.toNat) (by omega)
  simp only [isDigit, Bool.and_eq_true, decide_eq_true_eq, UInt8.le_iff_toNat_le, hn, UInt8.reduceToNat]
  exact ⟨hl, hu⟩

/-- A digit is one octet. -/
theorem ofChars_digits (h : ∀ c ∈ cs, c.isDigit = true) : ofChars cs = cs.map fun c => UInt8.ofNat c.toNat := by
  induction cs with
  | nil => rfl
  | cons c cs ih =>
    obtain ⟨hc, hcs⟩ := List.forall_mem_cons.mp h
    have hascii : c.val.toNat ≤ 0x7F := Nat.le_trans (toNat_of_isDigit hc).2 (by decide)
    rw [ofChars_cons, ih hcs, String.utf8EncodeChar]
    simp only [hascii, if_true, List.map_cons, List.cons_append, List.nil_append]
    rfl

/-- The digits of a number denote it. -/
theorem toNat?_ofNat (n : Nat) : toNat? (ofNat n) = some n := by
  have hdigits := isDigit_toDigits n
  have hall : (ofNat n).all isDigit = true := by
    rw [ofNat, ofChars_digits hdigits, List.all_map, List.all_eq_true]
    exact fun c hc => isDigit_octet (hdigits c hc)
  have hne : (ofNat n).isEmpty = false := by
    rw [ofNat, ofChars_digits hdigits, List.isEmpty_map, List.isEmpty_eq_false_iff]
    exact Nat.toDigits_ne_nil
  have hfold : (ofNat n).foldl (fun n b => n * 10 + (b.toNat - 0x30)) 0 = n := by
    rw [ofNat, ofChars_digits hdigits, List.foldl_map]
    refine Eq.trans ?_ (foldl_toDigits n)
    apply List.foldl_ext
    intro m c hc
    have hc := toNat_of_isDigit (hdigits c hc)
    rw [toNat_octet (by omega)]
  rw [toNat?, hne, hall, hfold]
  rfl

end Bytes

end Turnstile
