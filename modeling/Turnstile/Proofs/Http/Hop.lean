import Mathlib.Data.List.TakeWhile
import Turnstile.Http.Hop
import Turnstile.Proofs.Url.Path

namespace Turnstile

theorem mem_splitOn_iff {α : Type} [BEq α] [LawfulBEq α] {sep : α} {s part : List α} :
    part ∈ s.splitOn sep ↔ sep ∉ part ∧ ∃ before after, s = before ++ part ++ after ∧
      (before = [] ∨ before.getLast? = some sep) ∧ (after = [] ∨ after.head? = some sep) := by
  constructor
  · intro h
    refine ⟨not_mem_of_mem_splitOn h, ?_⟩
    -- on the length: what stands behind the first separator is shorter
    induction hn : s.length using Nat.strongRecOn generalizing s with
    | ind n ih =>
      by_cases hs : sep ∈ s
      · obtain ⟨front, rest, rfl, hf⟩ := List.eq_append_cons_of_mem hs
        rw [List.splitOn_append_cons_self, List.splitOn_eq_singleton hf] at h
        obtain rfl | h := List.mem_cons.mp h
        · exact ⟨[], sep :: rest, rfl, .inl rfl, .inr rfl⟩
        · have hlt : rest.length < n := by
            rw [← hn, List.length_append, List.length_cons]
            omega
          obtain ⟨before, after, rfl, hb, ha⟩ := ih _ hlt h rfl
          refine ⟨front ++ sep :: before, after, by simp, .inr ?_, ha⟩
          obtain rfl | hb := hb
          · simp
          · simp [List.getLast?_cons, hb]
      · rw [List.splitOn_eq_singleton hs, List.mem_singleton] at h
        subst h
        exact ⟨[], [], by simp, .inl rfl, .inl rfl⟩
  · rintro ⟨hp, before, after, rfl, hb, ha⟩
    -- the part comes first in what is left when everything before it is split off
    have hpart : part ∈ (part ++ after).splitOn sep := by
      obtain rfl | ha := ha
      · simp [List.splitOn_eq_singleton hp]
      · obtain ⟨rest, rfl⟩ := List.head?_eq_some_iff.mp ha
        simp [List.splitOn_append_cons_self, List.splitOn_eq_singleton hp]
    obtain rfl | hb := hb
    · exact hpart
    · obtain ⟨front, rfl⟩ := List.getLast?_eq_some_iff.mp hb
      rw [List.append_assoc, List.append_assoc, List.singleton_append, List.splitOn_append_cons_self]
      exact List.mem_append_right _ hpart

namespace Http

def comma : UInt8 := 0x2C

def IsName (token : Bytes) : Prop := token ≠ [] ∧ token.length ≤ 65535 ∧ ∀ b ∈ token, isToken b = true

theorem HeaderName.parse?_eq_some_iff {s : Bytes} {name : HeaderName} :
    parse? s = some name ↔ IsName s ∧ name = ⟨Bytes.lower s⟩ := by
  have hname : (!s.isEmpty && s.length ≤ 65535 && s.all isToken) = true ↔ IsName s := by
    simp [IsName, and_assoc]
  rw [parse?, Option.ite_none_right_eq_some, hname, Option.some.injEq, eq_comm (a := name)]

def Spells (element : Bytes) (name : HeaderName) : Prop :=
  ∃ left token right, element = left ++ token ++ right ∧ (∀ b ∈ left ++ right, isBlank b = true) ∧ IsName token ∧
    name = ⟨Bytes.lower token⟩

def Names (value : Bytes) (name : HeaderName) : Prop :=
  ∃ before element after, value = before ++ element ++ after ∧ (before = [] ∨ before.getLast? = some comma) ∧
    (after = [] ∨ after.head? = some comma) ∧ Spells element name

section

variable {s token left right value element : Bytes} {b : UInt8} {name : HeaderName}

theorem isBlank_of_isToken (h : isToken b = true) : isBlank b = false := by
  rw [Bool.eq_false_iff]
  intro hb
  simp only [isBlank, Bool.or_eq_true, decide_eq_true_eq] at hb
  obtain rfl | rfl := hb <;> exact absurd h (by decide)

theorem ne_comma_of_isToken (h : isToken b = true) : b ≠ comma := by
  rintro rfl
  exact absurd h (by decide)

theorem ne_comma_of_isBlank (h : isBlank b = true) : b ≠ comma := by
  rintro rfl
  exact absurd h (by decide)

theorem dropWhile_isBlank_append (hl : ∀ b ∈ left, isBlank b = true) (hs : ∀ b, s.head? = some b → isBlank b = false) :
    (left ++ s).dropWhile isBlank = s := by
  rw [List.dropWhile_append_of_pos hl]
  cases s with
  | nil => rfl
  | cons b s => rw [List.dropWhile_cons_of_neg (by simp [hs b rfl])]

theorem dropEnd_isBlank (hr : ∀ b ∈ right, isBlank b = true) : Bytes.dropEnd isBlank right = [] := by
  rw [Bytes.dropEnd, List.reverse_eq_nil_iff, List.dropWhile_eq_nil_iff]
  exact fun b hb => hr b (List.mem_reverse.mp hb)

theorem trimmed_of_isName (ht : IsName token) (hb : ∀ b ∈ left ++ right, isBlank b = true) :
    trimmed (left ++ token ++ right) = token := by
  obtain ⟨hne, -, htoken⟩ := ht
  obtain ⟨hl, hr⟩ := List.forall_mem_append.mp hb
  have hhead : ∀ b, (token ++ right).head? = some b → isBlank b = false := by
    intro b hb
    obtain ⟨c, rest, rfl⟩ := List.exists_cons_of_ne_nil hne
    obtain rfl := Option.some.inj hb
    exact isBlank_of_isToken (htoken c List.mem_cons_self)
  have hlast : ∀ b, token.getLast? = some b → isBlank b = false := fun b hb =>
    isBlank_of_isToken (htoken b (List.mem_of_getLast? hb))
  rw [trimmed, List.append_assoc, dropWhile_isBlank_append hl hhead, Bytes.dropEnd_append hlast, dropEnd_isBlank hr,
    List.append_nil]

theorem exists_eq_append_trimmed (s : Bytes) : ∃ left right, s = left ++ trimmed s ++ right ∧
    ∀ b ∈ left ++ right, isBlank b = true := by
  obtain ⟨right, he, hr⟩ := Bytes.exists_eq_dropEnd_append isBlank (s.dropWhile isBlank)
  refine ⟨s.takeWhile isBlank, right, ?_, ?_⟩
  · rw [List.append_assoc, trimmed, ← he, List.takeWhile_append_dropWhile]
  · exact List.forall_mem_append.mpr ⟨List.all_eq_true.mp List.all_takeWhile, hr⟩

theorem parse?_trimmed_eq_some_iff : HeaderName.parse? (trimmed element) = some name ↔ Spells element name := by
  rw [HeaderName.parse?_eq_some_iff]
  constructor
  · rintro ⟨ht, rfl⟩
    obtain ⟨left, right, he, hb⟩ := exists_eq_append_trimmed element
    exact ⟨left, _, right, he, hb, ht, rfl⟩
  · rintro ⟨left, token, right, rfl, hb, ht, rfl⟩
    rw [trimmed_of_isName ht hb]
    exact ⟨ht, rfl⟩

theorem Spells.comma_notMem (h : Spells element name) : comma ∉ element := by
  obtain ⟨left, token, right, rfl, hb, ⟨-, -, ht⟩, -⟩ := h
  obtain ⟨hl, hr⟩ := List.forall_mem_append.mp hb
  simp only [List.mem_append, not_or]
  exact ⟨⟨fun hm => ne_comma_of_isBlank (hl _ hm) rfl, fun hm => ne_comma_of_isToken (ht _ hm) rfl⟩,
    fun hm => ne_comma_of_isBlank (hr _ hm) rfl⟩

theorem isSome_valueText?_iff (h : isHeaderValue value = true) :
    (valueText? value).isSome = true ↔ ∀ b ∈ value, b < 0x80 := by
  have hplain : ∀ b ∈ value, ((0x20 ≤ b && b < 0x7F) || b = 0x09) = true ↔ b < 0x80 := by
    intro b hb
    have hv := List.all_eq_true.mp h b hb
    simp only [isValueOctet, Bool.or_eq_true, Bool.and_eq_true, bne_iff_ne, decide_eq_true_eq, UInt8.le_iff_toNat_le,
      UInt8.lt_iff_toNat_lt, ne_eq, ← UInt8.toNat_inj, UInt8.reduceToNat] at hv ⊢
    omega
  rw [valueText?, Option.isSome_ite, List.all_eq_true]
  exact forall₂_congr hplain

end

namespace Headers

variable {h : Headers} {value : Bytes} {name : HeaderName}

theorem mem_listedIn_iff : name ∈ listedIn value ↔ (valueText? value).isSome = true ∧ Names value name := by
  have hnames : (∃ s ∈ value.splitOn comma, HeaderName.parse? (trimmed s) = some name) ↔ Names value name := by
    simp only [mem_splitOn_iff, parse?_trimmed_eq_some_iff]
    constructor
    · rintro ⟨s, ⟨-, before, after, he, hb, ha⟩, hs⟩
      exact ⟨before, s, after, he, hb, ha, hs⟩
    · rintro ⟨before, s, after, he, hb, ha, hs⟩
      exact ⟨s, ⟨hs.comma_notMem, before, after, he, hb, ha⟩, hs⟩
  unfold listedIn
  split
  · next hv =>
    rw [List.mem_filterMap, and_iff_right hv]
    exact hnames
  · next hv => simp [hv]

/-- Names that the headers themselves declare to be of this connection, or that always are. -/
def EndsHere (h : Headers) (name : HeaderName) : Prop := name ∈ hopNames ∨ ∃ v ∈ h.all connection, Names v name

/-- Declared to be of this connection, but only where it cannot be read: in values with octets beyond ASCII. -/
def Obscured (h : Headers) (name : HeaderName) : Prop :=
  name ∉ hopNames ∧ (∃ v ∈ h.all connection, Names v name) ∧
    ∀ v ∈ h.all connection, Names v name → ∃ b ∈ v, 0x80 ≤ b

structure Stripped (h r : Headers) : Prop where
  gone : ∀ name, EndsHere h name → ¬Obscured h name → r.all name = []
  kept : ∀ name, ¬EndsHere h name → r.all name = h.all name
  passed : ∀ name, Obscured h name → r.all name = h.all name
  settled : r.beyondHop = r

theorem mem_listed_iff (hv : ∀ v ∈ h.all connection, isHeaderValue v = true) :
    name ∈ h.listed ↔ ∃ v ∈ h.all connection, Names v name ∧ ∀ b ∈ v, b < 0x80 := by
  rw [listed, List.mem_flatMap]
  constructor
  · rintro ⟨v, hm, hl⟩
    obtain ⟨ht, hn⟩ := mem_listedIn_iff.mp hl
    exact ⟨v, hm, hn, (isSome_valueText?_iff (hv v hm)).mp ht⟩
  · rintro ⟨v, hm, hn, ht⟩
    exact ⟨v, hm, mem_listedIn_iff.mpr ⟨(isSome_valueText?_iff (hv v hm)).mpr ht, hn⟩⟩

theorem mem_listed_append_hopNames_iff (hv : ∀ v ∈ h.all connection, isHeaderValue v = true) :
    name ∈ h.listed ++ hopNames ↔ EndsHere h name ∧ ¬Obscured h name := by
  rw [List.mem_append, mem_listed_iff hv]
  constructor
  · rintro (⟨v, hm, hn, ht⟩ | hhop)
    · refine ⟨.inr ⟨v, hm, hn⟩, fun ho => ?_⟩
      obtain ⟨b, hb, hl⟩ := ho.2.2 v hm hn
      exact absurd (ht b hb) (UInt8.not_lt.mpr hl)
    · exact ⟨.inl hhop, fun ho => ho.1 hhop⟩
  · rintro ⟨he, ho⟩
    by_cases hhop : name ∈ hopNames
    · exact .inr hhop
    · have hnamed := he.resolve_left hhop
      have hplain : ¬∀ v ∈ h.all connection, Names v name → ∃ b ∈ v, 0x80 ≤ b := fun hall => ho ⟨hhop, hnamed, hall⟩
      simp only [Classical.not_forall, not_exists, not_and, UInt8.not_le] at hplain
      obtain ⟨v, hm, hn, ht⟩ := hplain
      exact .inl ⟨v, hm, hn, ht⟩

theorem connection_mem_hopNames : connection ∈ hopNames := by decide

theorem listed_beyondHop (h : Headers) : h.beyondHop.listed = [] := by
  rw [listed, all_beyondHop, if_pos (List.mem_append_right _ connection_mem_hopNames)]
  rfl

theorem beyondHop_beyondHop (h : Headers) : h.beyondHop.beyondHop = h.beyondHop := by
  -- with nothing listed any more, only the fixed names are looked for, and these are gone
  have hagain : ∀ f ∈ h.beyondHop, f.1 ∉ hopNames := fun f hf hm =>
    of_decide_eq_true (List.mem_filter.mp hf).2 (List.mem_append_right _ hm)
  rw [beyondHop, listed_beyondHop, List.nil_append, removeAll, List.filter_eq_self]
  exact fun f hf => decide_eq_true (hagain f hf)

/-- Of headers that go on, the fields that end here are taken away, all others keep all their values, and nothing is
left to be taken away. A name that is declared in values with octets beyond ASCII alone is not taken away. -/
theorem stripped_unless_obscured (hv : ∀ v ∈ h.all connection, isHeaderValue v = true) :
    Stripped h h.beyondHop := by
  have hin {name : HeaderName} : name ∈ h.listed ++ hopNames ↔ EndsHere h name ∧ ¬Obscured h name :=
    mem_listed_append_hopNames_iff hv
  constructor
  case gone => exact fun name he ho => (all_beyondHop h name).trans (if_pos (hin.mpr ⟨he, ho⟩))
  case kept => exact fun name he => (all_beyondHop h name).trans (if_neg fun hm => he (hin.mp hm).1)
  case passed => exact fun name ho => (all_beyondHop h name).trans (if_neg fun hm => (hin.mp hm).2 ho)
  case settled => exact beyondHop_beyondHop h

def accented : Headers :=
  [(connection, Bytes.ofString "x-session, " ++ [0xE9]), (HeaderName.known "x-session", Bytes.ofString "abc")]

/-- A field goes on although a `connection` field lists its name. -/
theorem passed_though_listed : (∀ v ∈ accented.all connection, isHeaderValue v = true) ∧
    (∃ v ∈ accented.all connection, Names v (HeaderName.known "x-session")) ∧
    accented.beyondHop.all (HeaderName.known "x-session") = [Bytes.ofString "abc"] := by
  refine ⟨by decide, ⟨_, List.mem_cons_self, ?_⟩, by decide⟩
  have hname : IsName (Bytes.ofString "x-session") := by
    unfold IsName
    decide +kernel
  exact ⟨[], Bytes.ofString "x-session", Bytes.ofString ", " ++ [0xE9], rfl, .inl rfl, .inr rfl,
    ⟨[], _, [], rfl, by simp, hname, rfl⟩⟩

def muddled : Headers :=
  [(connection, Bytes.ofString "close, x-a"), (connection, Bytes.ofString ",, X-B\t, x c"),
    (connection, Bytes.ofString "x-d, x-a, " ++ [0xE9]), (HeaderName.known "x-a", [0x31]),
    (HeaderName.known "x-d", [0x32]), (HeaderName.known "x-b", [0x33]), (HeaderName.known "te", [0x34]),
    (HeaderName.known "x-d", [0x35]), (HeaderName.known "x-c", [0x36])]

theorem stripped_unless_obscured_muddled : (∀ v ∈ muddled.all connection, isHeaderValue v = true) ∧
    Stripped muddled muddled.beyondHop ∧
    muddled.beyondHop =
      [(HeaderName.known "x-d", [0x32]), (HeaderName.known "x-d", [0x35]), (HeaderName.known "x-c", [0x36])] := by
  have hv : ∀ v ∈ muddled.all connection, isHeaderValue v = true := by decide
  exact ⟨hv, stripped_unless_obscured hv, by decide⟩

end Headers

end Http

end Turnstile
