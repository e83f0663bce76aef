namespace Turnstile.Unicode

def hexNat (cs : List Char) : Nat :=
  cs.foldl (fun n c => n * 16 + (if c.isDigit then c.toNat - 48 else c.toNat - 55)) 0

def words (lines : List String) : List (List Char) := lines.flatMap fun l => l.toList.splitOn ' '

def parseRow (word : List Char) : Nat × Nat :=
  match word.splitOn '-' with
  | [a, b] => (hexNat a, hexNat b)
  | _ => (hexNat word, hexNat word)

abbrev Ranges := Array (Nat × Nat)

def Ranges.parse (lines : List String) : Ranges := ((words lines).map parseRow).toArray

def search {α : Type} (first last : α → Nat) (rows : Array α) (c : Nat) : (fuel low high : Nat) → Option α
  | 0, _, _ => none
  | fuel + 1, low, high =>
    if low < high then
      let middle := (low + high) / 2
      match rows[middle]? with
      | none => none
      | some row =>
        if c < first row then search first last rows c fuel low middle
        else if last row < c then search first last rows c fuel (middle + 1) high
        else some row
    else none

def Ranges.contains (r : Ranges) (c : Nat) : Bool :=
  (search (·.1) (·.2) r c (r.size + 1) 0 r.size).isSome

def parseTriple (word : List Char) : Nat × Nat × Nat :=
  match word.splitOn ':' with
  | [row, value] => let (a, b) := parseRow row; (a, b, hexNat value)
  | _ => (0, 0, 0)

def parseTriples (lines : List String) : Array (Nat × Nat × Nat) := ((words lines).map parseTriple).toArray

def findRow? (rows : Array (Nat × Nat × Nat)) (c : Nat) : Option (Nat × Nat × Nat) :=
  search (·.1) (·.2.1) rows c (rows.size + 1) 0 rows.size

/-- A row of characters, of which every `stride`th is replaced. -/
structure Replacement where
  first : Nat
  last : Nat
  stride : Nat
  target : List Nat

def parseReplacement (word : List Char) : Replacement :=
  match word.splitOn ':' with
  | [row, value] =>
    let target := (value.splitOn '+').map hexNat
    match row.splitOn '/' with
    | [a, b] => ⟨hexNat a, hexNat b, 2, target⟩
    | _ => let (a, b) := parseRow row; ⟨a, b, 1, target⟩
  | _ => ⟨0, 0, 1, []⟩

def parseReplacements (lines : List String) : Array Replacement := ((words lines).map parseReplacement).toArray

/-- What stands for a character of a row: the target shifted by its distance from the first. -/
def Replacement.apply (r : Replacement) (c : Nat) : List Nat :=
  match r.target with
  | [t] => [t + (c - r.first)]
  | ts => ts

def findReplacement? (rows : Array Replacement) (c : Nat) : Option (List Nat) :=
  match search (·.first) (·.last) rows c (rows.size + 1) 0 rows.size with
  | some r => if (c - r.first) % r.stride = 0 then some (r.apply c) else none
  | none => none

end Turnstile.Unicode
