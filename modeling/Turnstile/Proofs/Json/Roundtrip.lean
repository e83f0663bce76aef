import Turnstile.Json.Reader
import Turnstile.Json.Writer
import Turnstile.Proofs.Text.Decimal

namespace Turnstile

namespace Document

mutual

/-- Whether all numbers in it are kept when it is written and read back. -/
def isExact : Document → Bool
  | .integer n => -0x8000000000000000 ≤ n && n < 0x10000000000000000
  | .float _ => false
  | .list ds => itemsExact ds
  | .table es => entriesExact es
  | _ => true

def itemsExact : List Document → Bool
  | [] => true
  | d :: ds => isExact d && itemsExact ds

def entriesExact : List (String × Document) → Bool
  | [] => true
  | (_, d) :: es => isExact d && entriesExact es

end

theorem isExact_ofNat {n : Nat} (h : n < 0x10000000000000000) : (ofNat n).isExact = true := by
  simp only [ofNat, isExact, Bool.and_eq_true, decide_eq_true_eq, Int.ofNat_eq_natCast]
  omega

theorem entriesExact_iff {entries : List (String × Document)} :
    entriesExact entries = true ↔ ∀ e ∈ entries, e.2.isExact = true := by
  induction entries with
  | nil => simp [entriesExact]
  | cons e entries ih => rw [entriesExact, Bool.and_eq_true, ih, List.forall_mem_cons]

mutual

/-- What a document is read back as. -/
def canonical : Document → Document
  | .moment s => .text s
  | .list ds => .list (canonicalItems ds)
  | .table es => .table (canonicalEntries [] es)
  | d => d

def canonicalItems : List Document → List Document
  | [] => []
  | d :: ds => canonical d :: canonicalItems ds

def canonicalEntries : List (String × Document) → List (String × Document) → List (String × Document)
  | done, [] => done
  | done, (k, d) :: es => canonicalEntries (insertKey k (canonical d) done) es

end

theorem perm_insertKey {k : String} {entries : List (String × Document)} (d : Document)
    (h : k ∉ entries.map Prod.fst) : (insertKey k d entries).Perm ((k, d) :: entries) := by
  induction entries with
  | nil => exact List.Perm.refl _
  | cons e entries ih =>
    obtain ⟨j, x⟩ := e
    rw [List.map_cons, List.mem_cons, not_or] at h
    simp only [insertKey, h.1, if_false]
    split
    · exact List.Perm.refl _
    · exact ((ih h.2).cons (j, x)).trans (List.Perm.swap _ _ _)

theorem perm_canonicalEntries (done entries : List (String × Document))
    (h : ((done ++ entries).map Prod.fst).Nodup) :
    (canonicalEntries done entries).Perm (done ++ entries.map fun e => (e.1, e.2.canonical)) := by
  induction entries generalizing done with
  | nil =>
    rw [List.map_nil, List.append_nil]
    exact List.Perm.refl _
  | cons e entries ih =>
    obtain ⟨k, d⟩ := e
    have hmiddle : ((k :: (done ++ entries).map Prod.fst)).Nodup :=
      (List.perm_middle.map Prod.fst).nodup_iff.mp h
    have hk : k ∉ done.map Prod.fst := fun hm =>
      (List.nodup_cons.mp hmiddle).1 (by rw [List.map_append]; exact List.mem_append_left _ hm)
    have hinsert := perm_insertKey d.canonical hk
    have hnodup : ((insertKey k d.canonical done ++ entries).map Prod.fst).Nodup :=
      ((hinsert.append_right entries).map Prod.fst).nodup_iff.mpr hmiddle
    calc canonicalEntries (insertKey k d.canonical done) entries
      _ |>.Perm (insertKey k d.canonical done ++ entries.map fun e => (e.1, e.2.canonical)) := ih _ hnodup
      _ |>.Perm ((k, d.canonical) :: done ++ entries.map fun e => (e.1, e.2.canonical)) := hinsert.append_right _
      _ |>.Perm (done ++ (k, d.canonical) :: entries.map fun e => (e.1, e.2.canonical)) := List.perm_middle.symm

end Document

namespace Json

open Reader Writer

variable {c : Char} {cs rest : List Char} {n fuel : Nat} {d : Document} {done : List Char}

theorem hexDigit?_hexDigit : ∀ n < 16, hexDigit? (hexDigit n) = some n := by decide

theorem unicodeEscape?_control (h : n < 32) (rest : List Char) :
    unicodeEscape? ('0' :: '0' :: hexDigit (n / 16) :: hexDigit (n % 16) :: rest) = some (Char.ofNat n, rest) := by
  have hzero : hexDigit? '0' = some 0 := rfl
  have hhigh := hexDigit?_hexDigit (n / 16) (by omega)
  have hlow := hexDigit?_hexDigit (n % 16) (by omega)
  have hn : 0 * 4096 + 0 * 256 + n / 16 * 16 + n % 16 = n := by omega
  have hs : ¬(0xD800 ≤ n ∧ n < 0xDC00) := by omega
  have ht : ¬(0xDC00 ≤ n ∧ n < 0xE000) := by omega
  simp only [unicodeEscape?, hex4?, hzero, hhigh, hlow, Option.bind_eq_bind, Option.bind_some, hn, Bool.and_eq_true,
    decide_eq_true_eq, hs, ht, if_false]

theorem text?_escaped (fuel : Nat) (done : List Char) (c : Char) (rest : List Char) :
    text? (fuel + 1) done (escaped c ++ rest) = text? fuel (c :: done) rest := by
  unfold escaped
  split
  · next h => subst h; rfl
  split
  · next h => subst h; rfl
  split
  · next h => subst h; rfl
  split
  · next h => subst h; rfl
  split
  · next h => subst h; rfl
  split
  · next h => subst h; rfl
  split
  · next h => subst h; rfl
  split
  · next h =>
    have hu := unicodeEscape?_control h rest
    rw [Char.ofNat_toNat] at hu
    simp [text?, hu]
  · next hq hb _ _ _ _ _ hc => simp [text?, hq, hb, hc]

theorem text?_flatMap (cs done rest : List Char) (h : cs.length < fuel) :
    text? fuel done (cs.flatMap escaped ++ '"' :: rest) = some (String.ofList (done.reverse ++ cs), rest) := by
  induction cs generalizing fuel done with
  | nil =>
    cases fuel with
    | zero => cases h
    | succ fuel => simp [text?]
  | cons c cs ih =>
    cases fuel with
    | zero => cases h
    | succ fuel =>
      rw [List.flatMap_cons, List.append_assoc, text?_escaped, ih (c :: done) (Nat.lt_of_succ_lt_succ h)]
      simp

theorem length_le_length_flatMap_escaped (cs : List Char) : cs.length ≤ (cs.flatMap escaped).length := by
  induction cs with
  | nil => exact Nat.le_refl _
  | cons c cs ih =>
    have hc : 0 < (escaped c).length := by
      unfold escaped
      repeat' split
      all_goals exact Nat.succ_pos _
    rw [List.flatMap_cons, List.length_append, List.length_cons]
    omega

theorem text?_quoted (s : String) (rest : List Char) :
    ∃ tail, quoted s ++ rest = '"' :: tail ∧ text? (tail.length + 1) [] tail = some (s, rest) := by
  refine ⟨s.toList.flatMap escaped ++ '"' :: rest, by simp [quoted], ?_⟩
  rw [text?_flatMap]
  · simp
  · have := length_le_length_flatMap_escaped s.toList
    simp only [List.length_append]
    omega

/-- A number ends here: what follows can be no part of it. -/
def Stops (cs : List Char) : Prop := ∀ c ∈ cs.head?, c.isDigit = false ∧ c ≠ '.' ∧ isExponentMark c = false

theorem Stops.nil : Stops [] := nofun

theorem takeWhile_digits (h : ∀ c ∈ cs, c.isDigit = true) (hr : Stops rest) :
    (cs ++ rest).takeWhile Char.isDigit = cs ∧ (cs ++ rest).dropWhile Char.isDigit = rest := by
  have hnone : rest.takeWhile Char.isDigit = [] ∧ rest.dropWhile Char.isDigit = rest := by
    cases rest with
    | nil => exact ⟨rfl, rfl⟩
    | cons c rest => simp [(hr c rfl).1]
  rw [List.takeWhile_append_of_pos h, List.dropWhile_append_of_pos h, hnone.1, hnone.2, List.append_nil]
  exact ⟨rfl, rfl⟩

theorem head?_toDigits_ne (h : 0 < n) : (Nat.toDigits 10 n).head? ≠ some '0' := by
  induction n using Nat.strongRecOn with
  | ind n ih =>
    by_cases hn : n < 10
    · have hdigit : ∀ k < 10, 0 < k → Nat.digitChar k ≠ '0' := by decide
      rw [Nat.toDigits_of_lt_base hn]
      simpa using hdigit n hn h
    · have hsub := ih (n / 10) (by omega) (by omega)
      obtain ⟨c, cs, hc⟩ := List.exists_cons_of_ne_nil (Nat.toDigits_ne_nil (n := n / 10) (b := 10))
      rw [Nat.toDigits_of_base_le (by decide) (by omega)]
      rw [hc] at hsub ⊢
      exact hsub

theorem number?_toDigits (negative : Bool) (n : Nat) (hr : Stops rest) :
    number? negative (Nat.toDigits 10 n ++ rest) = number?.plain negative (Nat.toDigits 10 n ++ rest) rest := by
  obtain ⟨htake, hdrop⟩ := takeWhile_digits (isDigit_toDigits n) hr
  have hwhole : ¬((Nat.toDigits 10 n).isEmpty || ((Nat.toDigits 10 n).head? = some '0' &&
      (Nat.toDigits 10 n).length > 1)) = true := by
    obtain rfl | hn := Nat.eq_zero_or_pos n
    · decide
    · simp [Nat.toDigits_ne_nil, head?_toDigits_ne hn]
  unfold number?
  simp only [htake, hdrop]
  rw [if_neg hwhole]
  cases rest with
  | nil => rfl
  | cons c rest =>
    obtain ⟨-, hdot, he⟩ := hr c rfl
    split
    · next heq => exact absurd (List.cons.inj heq).1 hdot
    · next heq =>
      cases heq
      rw [if_neg (by simp [he])]
    · next heq => cases heq

theorem number?_natural (hn : n < 0x10000000000000000) (hr : Stops rest) :
    number? false (Nat.toDigits 10 n ++ rest) = some (.integer n, rest) := by
  rw [number?_toDigits false n hr, number?.plain]
  simp only [(takeWhile_digits (isDigit_toDigits n) hr).1, foldl_toDigits]
  rw [if_pos (by simpa using hn)]

theorem number?_negative (h : 0 < n) (hn : n ≤ 0x8000000000000000) (hr : Stops rest) :
    number? true (Nat.toDigits 10 n ++ rest) = some (.integer (-(n : Int)), rest) := by
  rw [number?_toDigits true n hr, number?.plain]
  simp only [(takeWhile_digits (isDigit_toDigits n) hr).1, foldl_toDigits]
  rw [if_neg (by simp), if_pos (by simp [h, hn])]

theorem isBlank_of_isDigit (hc : c.isDigit = true) : isBlank c = false := by
  cases hb : isBlank c with
  | false => rfl
  | true =>
    simp only [isBlank, Bool.or_eq_true, decide_eq_true_eq] at hb
    obtain ((rfl | rfl) | rfl) | rfl := hb <;> simp at hc

theorem skip_cons (hc : isBlank c = false) (cs : List Char) : skip (c :: cs) = c :: cs := by
  simp [skip, hc]

theorem value?_digit (hc : c.isDigit = true) (fuel : Nat) (cs : List Char) :
    value? (fuel + 1) (c :: cs) = number? false (c :: cs) := by
  rw [value?, skip_cons (isBlank_of_isDigit hc)]
  split <;> first
    | rfl
    | next heq => exact absurd ((List.cons.inj heq).1 ▸ hc) (by decide)

theorem value?_integer {n : Int} (h : (Document.integer n).isExact = true) (hr : Stops rest) (fuel : Nat) :
    value? (fuel + 1) (integer n ++ rest) = some (.integer n, rest) := by
  simp only [Document.isExact, Bool.and_eq_true, decide_eq_true_eq] at h
  cases n with
  | ofNat n =>
    obtain ⟨c, cs, hc⟩ := List.exists_cons_of_ne_nil (Nat.toDigits_ne_nil (n := n) (b := 10))
    have hdigit : c.isDigit = true := isDigit_toDigits n c (hc ▸ List.mem_cons_self)
    have hlt : (n : Int) < 0x10000000000000000 := h.2
    have hn := number?_natural (n := n) (by omega) hr
    simp only [integer]
    rw [hc] at hn ⊢
    rw [List.cons_append, value?_digit hdigit]
    exact hn
  | negSucc n => exact number?_negative (Nat.succ_pos n) (by omega) hr

theorem compact_head (h : d.isExact = true) : ∃ c cs, compact d = c :: cs ∧ isBlank c = false ∧ c ≠ ']' := by
  cases d with
  | null => exact ⟨_, _, rfl, rfl, by decide⟩
  | bool b => cases b <;> exact ⟨_, _, rfl, rfl, by decide⟩
  | integer n =>
    cases n with
    | ofNat n =>
      obtain ⟨c, cs, hc⟩ := List.exists_cons_of_ne_nil (Nat.toDigits_ne_nil (n := n) (b := 10))
      have hdigit : c.isDigit = true := isDigit_toDigits n c (hc ▸ List.mem_cons_self)
      exact ⟨c, cs, hc, isBlank_of_isDigit hdigit, fun he => by simp [he] at hdigit⟩
    | negSucc n => exact ⟨_, _, rfl, rfl, by decide⟩
  | float bits => cases h
  | text s => exact ⟨_, _, rfl, rfl, by decide⟩
  | moment s => exact ⟨_, _, rfl, rfl, by decide⟩
  | list ds => cases ds <;> exact ⟨_, _, rfl, rfl, by decide⟩
  | table es => cases es <;> exact ⟨_, _, rfl, rfl, by decide⟩

theorem stops_compactItems (ds : List Document) (rest : List Char) : Stops (compactItems ds ++ rest) := by
  cases ds <;> simp [compactItems, Stops, isExponentMark]

theorem stops_compactEntries (es : List (String × Document)) (rest : List Char) :
    Stops (compactEntries es ++ rest) := by
  cases es <;> simp [compactEntries, Stops, isExponentMark]

theorem compactItems_length_pos (ds : List Document) : 0 < (compactItems ds).length := by
  cases ds <;> exact Nat.succ_pos _

theorem compactEntries_length_pos (es : List (String × Document)) : 0 < (compactEntries es).length := by
  cases es <;> exact Nat.succ_pos _

theorem compact_length_pos (h : d.isExact = true) : 0 < (compact d).length := by
  obtain ⟨c, cs, hc, -⟩ := compact_head h
  simp [hc]

section

variable {x : Document} {items : List Document} {entries : List (String × Document)} {k : String}

theorem value?_quoted (s : String) (fuel : Nat) (rest : List Char) :
    value? (fuel + 1) (quoted s ++ rest) = some (.text s, rest) := by
  obtain ⟨tail, hq, ht⟩ := text?_quoted s rest
  have hv : value? (fuel + 1) ('"' :: tail) =
      (text? (tail.length + 1) [] tail).map fun p => (.text p.1, p.2) := rfl
  rw [hq, hv, ht]
  rfl

theorem value?_items (hc : isBlank c = false) (hn : c ≠ ']') (fuel : Nat) (cs : List Char) :
    value? (fuel + 1) ('[' :: c :: cs) = items? fuel [] (c :: cs) := by
  rw [value?, skip_cons (by decide)]
  simp only [skip_cons hc]
  split
  · next heq => exact absurd (List.cons.inj heq).1 hn
  · rfl

theorem value?_entries (k : String) (fuel : Nat) (cs : List Char) :
    value? (fuel + 1) ('\x7b' :: (quoted k ++ cs)) = entries? fuel [] (quoted k ++ cs) := rfl

theorem items?_more (h : value? fuel cs = some (x, ',' :: rest)) :
    items? (fuel + 1) items cs = items? fuel (x :: items) rest := by
  simp only [items?, h]
  rfl

theorem items?_last (h : value? fuel cs = some (x, ']' :: rest)) :
    items? (fuel + 1) items cs = some (.list (x :: items).reverse, rest) := by
  simp only [items?, h]
  rfl

theorem entries?_more (h : value? fuel cs = some (x, ',' :: rest)) :
    entries? (fuel + 1) entries (quoted k ++ ':' :: cs) = entries? fuel (Document.insertKey k x entries) rest := by
  obtain ⟨tail, hq, ht⟩ := text?_quoted k (':' :: cs)
  rw [hq, entries?, skip_cons (by decide)]
  simp only [ht, skip_cons (c := ':') (by decide), h, skip_cons (c := ',') (by decide)]

theorem entries?_last (h : value? fuel cs = some (x, '\x7d' :: rest)) :
    entries? (fuel + 1) entries (quoted k ++ ':' :: cs) =
      some (.table (Document.insertKey k x entries), rest) := by
  obtain ⟨tail, hq, ht⟩ := text?_quoted k (':' :: cs)
  rw [hq, entries?, skip_cons (by decide)]
  simp only [ht, skip_cons (c := ':') (by decide), h, skip_cons (c := '\x7d') (by decide)]

end

mutual

/-- A value is read as it was written, up to where it ends. Every turn of the reader takes at least one character. -/
theorem value?_compact : (d : Document) → d.isExact = true → (fuel : Nat) → (compact d).length ≤ fuel →
    (rest : List Char) → Stops rest → value? fuel (compact d ++ rest) = some (d.canonical, rest)
  | d, h, 0, hf, _, _ => absurd (compact_length_pos h) (Nat.not_lt_of_le hf)
  | .null, _, fuel + 1, _, rest, _ => rfl
  | .bool true, _, fuel + 1, _, rest, _ => rfl
  | .bool false, _, fuel + 1, _, rest, _ => rfl
  | .integer n, h, fuel + 1, _, rest, hr => value?_integer h hr fuel
  | .text s, _, fuel + 1, _, rest, _ => value?_quoted s fuel rest
  | .moment s, _, fuel + 1, _, rest, _ => value?_quoted s fuel rest
  | .list [], _, fuel + 1, _, rest, _ => rfl
  | .list (d :: ds), h, fuel + 1, hf, rest, _ => by
    simp only [Document.isExact, Document.itemsExact, Bool.and_eq_true] at h
    simp only [compact, List.cons_append, List.append_assoc, List.length_cons, List.length_append] at hf ⊢
    have hpos := compactItems_length_pos ds
    cases fuel with
    | zero => omega
    | succ fuel =>
      have hv := value?_compact d h.1 fuel (by omega) (compactItems ds ++ rest) (stops_compactItems ds rest)
      have hi := items?_compact ds h.2 fuel (by omega) [] d.canonical _ rest hv
      obtain ⟨c, cs, hc, hb, hn⟩ := compact_head h.1
      rw [hc, List.cons_append] at hi ⊢
      rw [value?_items hb hn, hi]
      rfl
  | .table [], _, fuel + 1, _, rest, _ => rfl
  | .table ((k, d) :: es), h, fuel + 1, hf, rest, _ => by
    simp only [Document.isExact, Document.entriesExact, Bool.and_eq_true] at h
    simp only [compact, List.cons_append, List.append_assoc, List.length_cons, List.length_append] at hf ⊢
    have hpos := compactEntries_length_pos es
    cases fuel with
    | zero => omega
    | succ fuel =>
      have hv := value?_compact d h.1 fuel (by omega) (compactEntries es ++ rest) (stops_compactEntries es rest)
      have he := entries?_compact es h.2 fuel (by omega) [] k d.canonical _ rest hv
      rw [value?_entries, he]
      rfl

theorem items?_compact : (ds : List Document) → Document.itemsExact ds = true → (fuel : Nat) →
    (compactItems ds).length ≤ fuel + 1 → (items : List Document) → (x : Document) → (cs rest : List Char) →
    value? fuel cs = some (x, compactItems ds ++ rest) →
    items? (fuel + 1) items cs = some (.list (items.reverse ++ x :: Document.canonicalItems ds), rest)
  | [], _, fuel, _, items, x, cs, rest, hv => by
    rw [items?_last hv, List.reverse_cons]
    rfl
  | d :: ds, h, fuel, hf, items, x, cs, rest, hv => by
    simp only [Document.itemsExact, Bool.and_eq_true] at h
    simp only [compactItems, List.cons_append, List.append_assoc, List.length_cons, List.length_append] at hf hv
    have hpos := compactItems_length_pos ds
    cases fuel with
    | zero => omega
    | succ fuel =>
      have hd := value?_compact d h.1 fuel (by omega) (compactItems ds ++ rest) (stops_compactItems ds rest)
      have hi := items?_compact ds h.2 fuel (by omega) (x :: items) d.canonical _ rest hd
      rw [items?_more hv, hi, List.reverse_cons, List.append_assoc]
      rfl

theorem entries?_compact : (es : List (String × Document)) → Document.entriesExact es = true → (fuel : Nat) →
    (compactEntries es).length ≤ fuel + 1 → (entries : List (String × Document)) → (k : String) → (x : Document) →
    (cs rest : List Char) → value? fuel cs = some (x, compactEntries es ++ rest) →
    entries? (fuel + 1) entries (quoted k ++ ':' :: cs) =
      some (.table (Document.canonicalEntries (Document.insertKey k x entries) es), rest)
  | [], _, fuel, _, entries, k, x, cs, rest, hv => entries?_last hv
  | (j, d) :: es, h, fuel, hf, entries, k, x, cs, rest, hv => by
    simp only [Document.entriesExact, Bool.and_eq_true] at h
    simp only [compactEntries, List.cons_append, List.append_assoc, List.length_cons, List.length_append] at hf hv
    have hpos := compactEntries_length_pos es
    cases fuel with
    | zero => omega
    | succ fuel =>
      have hd := value?_compact d h.1 fuel (by omega) (compactEntries es ++ rest) (stops_compactEntries es rest)
      have he := entries?_compact es h.2 fuel (by omega) (Document.insertKey k x entries) j d.canonical _ rest hd
      rw [entries?_more hv, he]
      rfl

end

/-- Writing and reading a document keeps it, but for how a table orders its entries and what moments are. -/
theorem read?_compact (h : d.isExact = true) : read? (compact d) = some d.canonical := by
  have hv := value?_compact d h ((compact d).length + 1) (by omega) [] .nil
  rw [List.append_nil] at hv
  rw [read?, hv]
  rfl

end Json

end Turnstile
