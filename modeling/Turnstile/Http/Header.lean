import Turnstile.Bytes

namespace Turnstile.Http

def isToken (b : UInt8) : Bool := Bytes.isAlphanumeric b || Bytes.isOneOf "!#$%&'*+-.^_\x60|~" b

structure HeaderName where
  octets : Bytes
  deriving DecidableEq, Repr

/-- The name as `HeaderName.parse?` keeps it, for names known when the program is written. -/
def HeaderName.known (s : String) : HeaderName := ⟨Bytes.lower (Bytes.ofString s)⟩

def HeaderName.parse? (s : Bytes) : Option HeaderName :=
  if !s.isEmpty && s.length ≤ 65535 && s.all isToken then some ⟨Bytes.lower s⟩ else none

def isValueOctet (b : UInt8) : Bool := (0x20 ≤ b && b != 0x7F) || b = 0x09

def isHeaderValue (s : Bytes) : Bool := s.all isValueOctet

/-- The value as text, if it is made of visible ASCII, blanks and tabs. -/
def valueText? (s : Bytes) : Option String :=
  if s.all (fun b => (0x20 ≤ b && b < 0x7F) || b = 0x09) then
    some (String.ofList (s.map fun b => Char.ofNat b.toNat)) else none

abbrev Headers := List (HeaderName × Bytes)

namespace Headers

def all (h : Headers) (name : HeaderName) : List Bytes := (h.filter (·.1 = name)).map (·.2)

def first? (h : Headers) (name : HeaderName) : Option Bytes := (h.find? (·.1 = name)).map (·.2)

def has (h : Headers) (name : HeaderName) : Bool := h.any (·.1 = name)

def remove (h : Headers) (name : HeaderName) : Headers := h.filter (·.1 ≠ name)

def removeAll (h : Headers) (names : List HeaderName) : Headers := h.filter (fun f => f.1 ∉ names)

def append (h : Headers) (name : HeaderName) (value : Bytes) : Headers := h ++ [(name, value)]

def put (h : Headers) (name : HeaderName) (value : Bytes) : Headers := (h.remove name).append name value

def putIfAbsent (h : Headers) (name : HeaderName) (value : Bytes) : Headers :=
  if h.has name then h else h.append name value

theorem all_cons (n name : HeaderName) (v : Bytes) (h : Headers) :
    all ((n, v) :: h) name = if n = name then v :: h.all name else h.all name := by
  by_cases hn : n = name <;> simp [all, hn]

theorem first?_eq_head?_all (h : Headers) (name : HeaderName) : h.first? name = (h.all name).head? := by
  induction h with
  | nil => rfl
  | cons f h ih =>
    obtain ⟨n, v⟩ := f
    by_cases hn : n = name
    · simp [first?, all_cons, hn]
    · simpa [first?, all_cons, hn] using ih

theorem has_eq_isSome_first? (h : Headers) (name : HeaderName) : h.has name = (h.first? name).isSome := by
  induction h with
  | nil => rfl
  | cons f h ih =>
    obtain ⟨n, v⟩ := f
    by_cases hn : n = name
    · simp [has, first?, hn]
    · simpa [has, first?, hn] using ih

theorem all_removeAll (h : Headers) (names : List HeaderName) (name : HeaderName) :
    (h.removeAll names).all name = if name ∈ names then [] else h.all name := by
  induction h with
  | nil => simp [removeAll, all]
  | cons f h ih =>
    obtain ⟨n, v⟩ := f
    by_cases hr : n ∈ names
    · have hd : removeAll ((n, v) :: h) names = removeAll h names := by simp [removeAll, hr]
      rw [hd, ih, all_cons]
      by_cases hn : n = name
      · subst hn
        simp [hr]
      · simp [hn]
    · have hk : removeAll ((n, v) :: h) names = (n, v) :: removeAll h names := by simp [removeAll, hr]
      rw [hk, all_cons, all_cons, ih]
      by_cases hn : n = name
      · subst hn
        simp [hr]
      · simp [hn]

theorem remove_eq_removeAll (h : Headers) (name : HeaderName) : h.remove name = h.removeAll [name] := by
  simp [remove, removeAll]

theorem all_remove (h : Headers) (name other : HeaderName) :
    (h.remove name).all other = if other = name then [] else h.all other := by
  simp [remove_eq_removeAll, all_removeAll]

theorem removeAll_removeAll (h : Headers) (names more : List HeaderName) :
    (h.removeAll names).removeAll more = h.removeAll (names ++ more) := by
  simp only [removeAll, List.filter_filter]
  apply List.filter_congr
  intro f _
  by_cases hn : f.1 ∈ names <;> simp [hn]

theorem has_removeAll (h : Headers) (names : List HeaderName) (name : HeaderName) :
    (h.removeAll names).has name = (decide (name ∉ names) && h.has name) := by
  induction h with
  | nil => simp [has, removeAll]
  | cons f h ih =>
    by_cases hr : f.1 ∈ names
    · have hd : removeAll (f :: h) names = removeAll h names := by simp [removeAll, hr]
      rw [hd, ih]
      by_cases hn : f.1 = name
      · simp [← hn, hr]
      · simp [has, hn]
    · have hk : removeAll (f :: h) names = f :: removeAll h names := by simp [removeAll, hr]
      rw [hk, has, List.any_cons, ← has, ih]
      by_cases hn : f.1 = name
      · simp [has, ← hn, hr]
      · simp [has, hn]

theorem all_append (h : Headers) (name other : HeaderName) (v : Bytes) :
    (h.append name v).all other = h.all other ++ if name = other then [v] else [] := by
  by_cases hn : name = other <;> simp [append, all, hn]

theorem has_iff (h : Headers) (name : HeaderName) : h.has name = true ↔ h.all name ≠ [] := by
  rw [has_eq_isSome_first?, first?_eq_head?_all]
  cases h.all name <;> simp

theorem all_putIfAbsent (h : Headers) (name other : HeaderName) (v : Bytes) :
    (h.putIfAbsent name v).all other = if other = name ∧ h.all name = [] then [v] else h.all other := by
  unfold putIfAbsent
  split
  · next ha =>
    rw [if_neg fun hn => (has_iff h name).mp ha hn.2]
  · next ha =>
    have he : h.all name = [] := by simpa [has_iff] using ha
    rw [all_append]
    by_cases hn : other = name
    · simp [hn, he]
    · simp [hn, Ne.symm hn]

theorem removeAll_putIfAbsent (h : Headers) (names : List HeaderName) (name : HeaderName) (v : Bytes) :
    (h.putIfAbsent name v).removeAll names =
      if name ∈ names then h.removeAll names else (h.removeAll names).putIfAbsent name v := by
  by_cases hn : name ∈ names
  · by_cases ha : h.has name <;> simp [putIfAbsent, append, removeAll, hn, ha]
  · rw [if_neg hn]
    simp only [putIfAbsent, has_removeAll, hn, not_false_eq_true, decide_true, Bool.true_and]
    split
    · rfl
    · simp [append, removeAll, hn]

inductive Problem where
  | name
  | value
  deriving DecidableEq, Repr

def Problem.message : Problem → String
  | name => "invalid HTTP header name"
  | value => "failed to parse header value"

/-- Checks raw fields in order; the first bad name or value is the one reported. -/
def parse : List (Bytes × Bytes) → Except Problem Headers
  | [] => .ok []
  | (n, v) :: rest =>
    match HeaderName.parse? n with
    | none => .error .name
    | some name => if isHeaderValue v then (parse rest).map ((name, v) :: ·) else .error .value

def sorted (h : Headers) : Headers := h.mergeSort (fun a b => decide (a.1.octets ≤ b.1.octets))

end Headers

end Turnstile.Http
