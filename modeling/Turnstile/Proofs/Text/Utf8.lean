import Turnstile.Bytes

namespace Turnstile.Bytes

variable {c : Char} {cs : List Char} {s : Bytes} {a b n : Nat}

theorem toNat_octet (h : n < 256) : (UInt8.ofNat n).toNat = n := by
  rw [UInt8.toNat_ofNat']
  exact Nat.mod_eq_of_lt h

theorem isTail_octet (h : n < 64) : isTail (UInt8.ofNat (n + 128)) = true := by
  have hn := toNat_octet (n := n + 128) (by omega)
  simp only [isTail, UInt8.le_iff_toNat_le, hn, Bool.and_eq_true, decide_eq_true_eq, UInt8.reduceToNat]
  omega

theorem payload_octet (h : n < 64) : payload (UInt8.ofNat (n + 128)) = n := by
  rw [payload, toNat_octet (by omega)]
  omega

/-- The octets after which not every tail may follow: overlong forms, surrogates and what is beyond the last character
begin with them. -/
theorem secondOk_octet (ha : a < 256) (hb : b < 64) (h₁ : a = 0xE0 → 32 ≤ b) (h₂ : a = 0xED → b < 32)
    (h₃ : a = 0xF0 → 16 ≤ b) (h₄ : a = 0xF4 → b < 16) :
    secondOk (UInt8.ofNat a) (UInt8.ofNat (b + 128)) = true := by
  have ha := toNat_octet ha
  have hb := toNat_octet (n := b + 128) (by omega)
  simp only [secondOk, secondRange, ← UInt8.toNat_inj, ha, UInt8.reduceToNat]
  split
  · simp only [UInt8.le_iff_toNat_le, hb, Bool.and_eq_true, decide_eq_true_eq, UInt8.reduceToNat]
    omega
  split
  · simp only [UInt8.le_iff_toNat_le, hb, Bool.and_eq_true, decide_eq_true_eq, UInt8.reduceToNat]
    omega
  split
  · simp only [UInt8.le_iff_toNat_le, hb, Bool.and_eq_true, decide_eq_true_eq, UInt8.reduceToNat]
    omega
  split <;>
  · simp only [UInt8.le_iff_toNat_le, hb, Bool.and_eq_true, decide_eq_true_eq, UInt8.reduceToNat]
    omega

theorem decodeChar?_one (hn : n < 128) : decodeChar? (UInt8.ofNat n :: s) = some (Char.ofNat n, s) := by
  have ha := toNat_octet (n := n) (by omega)
  simp only [decodeChar?, UInt8.lt_iff_toNat_lt, ha, UInt8.reduceToNat, hn, if_true]

theorem decodeChar?_two (h : 128 ≤ n) (hn : n < 2048) :
    decodeChar? (UInt8.ofNat (n / 64 % 32 + 192) :: UInt8.ofNat (n % 64 + 128) :: s) = some (Char.ofNat n, s) := by
  have ha := toNat_octet (n := n / 64 % 32 + 192) (by omega)
  have hb := isTail_octet (n := n % 64) (by omega)
  have hp := payload_octet (n := n % 64) (by omega)
  have hc : (n / 64 % 32 + 192) % 32 * 64 + n % 64 = n := by omega
  simp only [decodeChar?, UInt8.lt_iff_toNat_lt, UInt8.le_iff_toNat_le, ha, UInt8.reduceToNat, Bool.and_eq_true,
    decide_eq_true_eq]
  rw [if_neg (by omega), if_pos (by omega), if_pos hb, hp, hc]

theorem decodeChar?_three (h : 2048 ≤ n) (hn : n < 65536) (hs : n < 0xD800 ∨ 0xDFFF < n) :
    decodeChar? (UInt8.ofNat (n / 4096 % 16 + 224) :: UInt8.ofNat (n / 64 % 64 + 128) :: UInt8.ofNat (n % 64 + 128) ::
      s) = some (Char.ofNat n, s) := by
  have ha := toNat_octet (n := n / 4096 % 16 + 224) (by omega)
  have hb := secondOk_octet (a := n / 4096 % 16 + 224) (b := n / 64 % 64) (by omega) (by omega) (by omega) (by omega)
    (by omega) (by omega)
  have ht := isTail_octet (n := n % 64) (by omega)
  have hp := payload_octet (n := n / 64 % 64) (by omega)
  have hq := payload_octet (n := n % 64) (by omega)
  have hc : (n / 4096 % 16 + 224) % 16 * 4096 + n / 64 % 64 * 64 + n % 64 = n := by omega
  simp only [decodeChar?, UInt8.lt_iff_toNat_lt, UInt8.le_iff_toNat_le, ha, UInt8.reduceToNat, Bool.and_eq_true,
    decide_eq_true_eq]
  rw [if_neg (by omega), if_neg (by omega), if_pos (by omega), if_pos ⟨hb, ht⟩, hp, hq, hc]

theorem decodeChar?_four (h : 65536 ≤ n) (hn : n < 0x110000) :
    decodeChar? (UInt8.ofNat (n / 262144 % 8 + 240) :: UInt8.ofNat (n / 4096 % 64 + 128) ::
      UInt8.ofNat (n / 64 % 64 + 128) :: UInt8.ofNat (n % 64 + 128) :: s) = some (Char.ofNat n, s) := by
  have ha := toNat_octet (n := n / 262144 % 8 + 240) (by omega)
  have hb := secondOk_octet (a := n / 262144 % 8 + 240) (b := n / 4096 % 64) (by omega) (by omega) (by omega)
    (by omega) (by omega) (by omega)
  have ht := isTail_octet (n := n / 64 % 64) (by omega)
  have hu := isTail_octet (n := n % 64) (by omega)
  have hp := payload_octet (n := n / 4096 % 64) (by omega)
  have hq := payload_octet (n := n / 64 % 64) (by omega)
  have hr := payload_octet (n := n % 64) (by omega)
  have hc : (n / 262144 % 8 + 240) % 8 * 262144 + n / 4096 % 64 * 4096 + n / 64 % 64 * 64 + n % 64 = n := by omega
  simp only [decodeChar?, UInt8.lt_iff_toNat_lt, UInt8.le_iff_toNat_le, ha, UInt8.reduceToNat, Bool.and_eq_true,
    decide_eq_true_eq]
  rw [if_neg (by omega), if_neg (by omega), if_neg (by omega), if_pos (by omega), if_pos ⟨⟨hb, ht⟩, hu⟩, hp, hq, hr, hc]

/-- One character is read as it was written, whatever follows it. -/
theorem decodeChar?_encode (c : Char) (s : Bytes) : decodeChar? (String.utf8EncodeChar c ++ s) = some (c, s) := by
  have hvalid : c.toNat < 0xD800 ∨ (0xDFFF < c.toNat ∧ c.toNat < 0x110000) := c.valid
  suffices h : decodeChar? (String.utf8EncodeChar c ++ s) = some (Char.ofNat c.toNat, s) by
    rwa [Char.ofNat_toNat] at h
  have hn : c.val.toNat = c.toNat := rfl
  simp only [String.utf8EncodeChar, hn]
  split
  · exact decodeChar?_one (by omega)
  split
  · exact decodeChar?_two (by omega) (by omega)
  split
  · exact decodeChar?_three (by omega) (by omega) (by omega)
  · exact decodeChar?_four (by omega) (by omega)

theorem ofChars_cons (c : Char) (cs : List Char) : ofChars (c :: cs) = String.utf8EncodeChar c ++ ofChars cs := rfl

theorem decodeWith_ofChars (cs done : List Char) (fuel : Nat) (h : cs.length ≤ fuel) :
    decodeWith fuel done (ofChars cs) = some (done.reverse ++ cs) := by
  induction cs generalizing done fuel with
  | nil =>
    rw [List.append_nil]
    cases fuel <;> rfl
  | cons c cs ih =>
    cases fuel with
    | zero => cases h
    | succ fuel =>
      obtain ⟨b, rest, hb⟩ := List.exists_cons_of_ne_nil (String.utf8EncodeChar_ne_nil (c := c))
      have hc := decodeChar?_encode c (ofChars cs)
      rw [ofChars_cons]
      rw [hb] at hc ⊢
      rw [List.cons_append] at hc ⊢
      simp only [decodeWith, hc]
      rw [ih (c :: done) fuel (Nat.le_of_succ_le_succ h), List.reverse_cons, List.append_assoc]
      rfl

theorem length_le_length_ofChars (cs : List Char) : cs.length ≤ (ofChars cs).length := by
  induction cs with
  | nil => exact Nat.le_refl _
  | cons c cs ih =>
    have hc : 0 < (String.utf8EncodeChar c).length := List.length_pos_iff.mpr String.utf8EncodeChar_ne_nil
    rw [ofChars_cons, List.length_append, List.length_cons]
    omega

theorem toChars?_ofChars (cs : List Char) : toChars? (ofChars cs) = some cs :=
  decodeWith_ofChars cs [] _ (length_le_length_ofChars cs)

section

variable {rest : Bytes} {a b d e : UInt8}

theorem val_ofNat (h : n < 0xD800 ∨ 0xDFFF < n ∧ n < 0x110000) : (Char.ofNat n).val.toNat = n := by
  have hvalid : n.isValidChar := h
  have hn : n < UInt32.size := by
    simp only [UInt32.size]
    omega
  rw [Char.ofNat, dif_pos hvalid]
  exact UInt32.toNat_ofNatLT (h := hn)

theorem exists_of_isTail (h : isTail b = true) : ∃ n < 64, b = UInt8.ofNat (n + 128) ∧ payload b = n := by
  simp only [isTail, Bool.and_eq_true, decide_eq_true_eq, UInt8.le_iff_toNat_le, UInt8.reduceToNat] at h
  refine ⟨payload b, ?_, ?_, rfl⟩
  · rw [payload]
    omega
  · rw [← UInt8.toNat_inj, payload, toNat_octet (by omega)]
    omega

theorem exists_of_secondOk (h : secondOk a b = true) : ∃ n < 64, b = UInt8.ofNat (n + 128) ∧ payload b = n ∧
    (a.toNat = 0xE0 → 32 ≤ n) ∧ (a.toNat = 0xED → n < 32) ∧ (a.toNat = 0xF0 → 16 ≤ n) ∧ (a.toNat = 0xF4 → n < 16) := by
  have hrange : isTail b = true ∧ (a.toNat = 0xE0 → 0xA0 ≤ b.toNat) ∧ (a.toNat = 0xED → b.toNat < 0xA0) ∧
      (a.toNat = 0xF0 → 0x90 ≤ b.toNat) ∧ (a.toNat = 0xF4 → b.toNat < 0x90) := by
    simp only [secondOk, secondRange, ← UInt8.toNat_inj, UInt8.reduceToNat] at h
    simp only [isTail, Bool.and_eq_true, decide_eq_true_eq, UInt8.le_iff_toNat_le, UInt8.reduceToNat]
    split at h
    · simp only [UInt8.le_iff_toNat_le, Bool.and_eq_true, decide_eq_true_eq, UInt8.reduceToNat] at h
      omega
    split at h
    · simp only [UInt8.le_iff_toNat_le, Bool.and_eq_true, decide_eq_true_eq, UInt8.reduceToNat] at h
      omega
    split at h
    · simp only [UInt8.le_iff_toNat_le, Bool.and_eq_true, decide_eq_true_eq, UInt8.reduceToNat] at h
      omega
    split at h <;>
    · simp only [UInt8.le_iff_toNat_le, Bool.and_eq_true, decide_eq_true_eq, UInt8.reduceToNat] at h
      omega
  obtain ⟨htail, hrange⟩ := hrange
  obtain ⟨n, hn, rfl, hp⟩ := exists_of_isTail htail
  rw [toNat_octet (by omega)] at hrange
  exact ⟨n, hn, rfl, hp, by omega, by omega, by omega, by omega⟩

theorem encode_one (ha : a.toNat < 0x80) : String.utf8EncodeChar (Char.ofNat a.toNat) = [a] := by
  simp only [String.utf8EncodeChar, val_ofNat (n := a.toNat) (by omega)]
  rw [if_pos (by omega), UInt8.ofNat_toNat]

theorem encode_two (ha : 0xC2 ≤ a.toNat ∧ a.toNat ≤ 0xDF) (hb : isTail b = true) :
    String.utf8EncodeChar (Char.ofNat (a.toNat % 32 * 64 + payload b)) = [a, b] := by
  obtain ⟨n, hn, rfl, hp⟩ := exists_of_isTail hb
  have hlead : (a.toNat % 32 * 64 + n) / 64 % 32 + 192 = a.toNat := by omega
  have hlast : (a.toNat % 32 * 64 + n) % 64 = n := by omega
  simp only [hp, String.utf8EncodeChar, val_ofNat (n := a.toNat % 32 * 64 + n) (by omega)]
  rw [if_neg (by omega), if_pos (by omega), hlead, hlast, UInt8.ofNat_toNat]

theorem encode_three (ha : 0xE0 ≤ a.toNat ∧ a.toNat ≤ 0xEF) (hb : secondOk a b = true) (hd : isTail d = true) :
    String.utf8EncodeChar (Char.ofNat (a.toNat % 16 * 4096 + payload b * 64 + payload d)) = [a, b, d] := by
  obtain ⟨n, hn, rfl, hp, hlow, hsurrogate, -⟩ := exists_of_secondOk hb
  obtain ⟨m, hm, rfl, hq⟩ := exists_of_isTail hd
  have hlead : (a.toNat % 16 * 4096 + n * 64 + m) / 4096 % 16 + 224 = a.toNat := by omega
  have hsecond : (a.toNat % 16 * 4096 + n * 64 + m) / 64 % 64 = n := by omega
  have hlast : (a.toNat % 16 * 4096 + n * 64 + m) % 64 = m := by omega
  simp only [hp, hq, String.utf8EncodeChar, val_ofNat (n := a.toNat % 16 * 4096 + n * 64 + m) (by omega)]
  rw [if_neg (by omega), if_neg (by omega), if_pos (by omega), hlead, hsecond, hlast, UInt8.ofNat_toNat]

theorem encode_four (ha : 0xF0 ≤ a.toNat ∧ a.toNat ≤ 0xF4) (hb : secondOk a b = true) (hd : isTail d = true)
    (he : isTail e = true) : String.utf8EncodeChar
      (Char.ofNat (a.toNat % 8 * 262144 + payload b * 4096 + payload d * 64 + payload e)) = [a, b, d, e] := by
  obtain ⟨n, hn, rfl, hp, -, -, hlow, hhigh⟩ := exists_of_secondOk hb
  obtain ⟨m, hm, rfl, hq⟩ := exists_of_isTail hd
  obtain ⟨l, hl, rfl, hr⟩ := exists_of_isTail he
  have hlead : (a.toNat % 8 * 262144 + n * 4096 + m * 64 + l) / 262144 % 8 + 240 = a.toNat := by omega
  have hsecond : (a.toNat % 8 * 262144 + n * 4096 + m * 64 + l) / 4096 % 64 = n := by omega
  have hthird : (a.toNat % 8 * 262144 + n * 4096 + m * 64 + l) / 64 % 64 = m := by omega
  have hlast : (a.toNat % 8 * 262144 + n * 4096 + m * 64 + l) % 64 = l := by omega
  simp only [hp, hq, hr, String.utf8EncodeChar,
    val_ofNat (n := a.toNat % 8 * 262144 + n * 4096 + m * 64 + l) (by omega)]
  rw [if_neg (by omega), if_neg (by omega), if_neg (by omega), hlead, hsecond, hthird, hlast, UInt8.ofNat_toNat]

/-- What is read as one character is how that character is written. -/
theorem eq_encode_of_decodeChar? (h : decodeChar? s = some (c, rest)) : s = String.utf8EncodeChar c ++ rest := by
  unfold decodeChar? at h
  split at h
  · cases h
  simp only [UInt8.lt_iff_toNat_lt, UInt8.le_iff_toNat_le, UInt8.reduceToNat, Bool.and_eq_true,
    decide_eq_true_eq] at h
  split at h
  · next ha =>
    obtain ⟨rfl, rfl⟩ := Prod.mk.inj (Option.some.inj h)
    rw [encode_one ha]
    rfl
  split at h
  · next ha =>
    split at h
    · obtain ⟨hb, h⟩ := Option.ite_none_right_eq_some.mp h
      obtain ⟨rfl, rfl⟩ := Prod.mk.inj (Option.some.inj h)
      rw [encode_two ha hb]
      rfl
    · cases h
  split at h
  · next ha =>
    split at h
    · obtain ⟨⟨hb, hd⟩, h⟩ := Option.ite_none_right_eq_some.mp h
      obtain ⟨rfl, rfl⟩ := Prod.mk.inj (Option.some.inj h)
      rw [encode_three ha hb hd]
      rfl
    · cases h
  split at h
  · next ha =>
    split at h
    · obtain ⟨⟨⟨hb, hd⟩, he⟩, h⟩ := Option.ite_none_right_eq_some.mp h
      obtain ⟨rfl, rfl⟩ := Prod.mk.inj (Option.some.inj h)
      rw [encode_four ha hb hd he]
      rfl
    · cases h
  · cases h

theorem eq_of_decodeWith {done : List Char} {fuel : Nat} (h : decodeWith fuel done s = some cs) :
    ∃ read, cs = done.reverse ++ read ∧ s = ofChars read := by
  induction fuel generalizing done s with
  | zero =>
    cases s with
    | nil => exact ⟨[], by simpa [decodeWith] using h.symm, rfl⟩
    | cons => cases h
  | succ fuel ih =>
    cases s with
    | nil => exact ⟨[], by simpa [decodeWith] using h.symm, rfl⟩
    | cons b s =>
      simp only [decodeWith] at h
      split at h
      · next c rest hc =>
        obtain ⟨read, rfl, rfl⟩ := ih h
        refine ⟨c :: read, ?_, eq_encode_of_decodeChar? hc⟩
        rw [List.reverse_cons, List.append_assoc]
        rfl
      · cases h

/-- Octets are read as a text exactly if they are how it is written. -/
theorem toChars?_eq_some_iff : toChars? s = some cs ↔ s = ofChars cs := by
  constructor
  · intro h
    obtain ⟨read, rfl, rfl⟩ := eq_of_decodeWith h
    rfl
  · rintro rfl
    exact toChars?_ofChars cs

theorem toString?_eq_some_iff {t : String} : toString? s = some t ↔ s = ofString t := by
  rw [toString?, Option.map_eq_some_iff]
  constructor
  · rintro ⟨cs, hcs, rfl⟩
    rw [ofString, String.toList_ofList]
    exact toChars?_eq_some_iff.mp hcs
  · rintro rfl
    exact ⟨t.toList, toChars?_eq_some_iff.mpr rfl, String.ofList_toList⟩

theorem toString?_eq_none_iff : toString? s = none ↔ ∀ t : String, s ≠ ofString t := by
  rw [Option.eq_none_iff_forall_ne_some]
  exact forall_congr' fun t => not_congr toString?_eq_some_iff

end

end Turnstile.Bytes
