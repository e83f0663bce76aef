import Turnstile.Document

namespace Turnstile.Toml

inductive Node where
  | value (d : Document)
  | table (implied dotted : Bool) (entries : List (String × Node))
  | tables (rows : List (List (String × Node)))
  deriving Inhabited

/-- A table under construction. -/
structure Table where
  implied : Bool := false
  dotted : Bool := false
  entries : List (String × Node) := []
  deriving Inhabited

namespace Table

def find? (t : Table) (k : String) : Option Node := (t.entries.find? (·.1 == k)).map (·.2)

def has (t : Table) (k : String) : Bool := t.entries.any (·.1 == k)

def erase (t : Table) (k : String) : Table := { t with entries := t.entries.filter (·.1 != k) }

def set (t : Table) (k : String) (n : Node) : Table :=
  if t.has k then { t with entries := t.entries.map fun e => if e.1 == k then (k, n) else e }
  else { t with entries := t.entries ++ [(k, n)] }

def toNode (t : Table) : Node := .table t.implied t.dotted t.entries

end Table

/-- Changes the table at the end of a path and makes the tables that are missing on the way. A row of tables stands for
its last one. A dotted key may not enter a table that a header or a value has defined. -/
def within (dotted : Bool) (change : Table → Option Table) : List String → Table → Option Table
  | [], t => change t
  | k :: path, t =>
    match t.find? k with
    | none =>
      match within dotted change path ⟨true, dotted, []⟩ with
      | some child => some (t.set k child.toNode)
      | none => none
    | some (.value _) => none
    | some (.table implied madeByKey entries) =>
      if dotted && !implied then none
      else
        match within dotted change path ⟨implied, madeByKey, entries⟩ with
        | some child => some (t.set k child.toNode)
        | none => none
    | some (.tables rows) =>
      match rows.getLast? with
      | none => none
      | some row =>
        match within dotted change path ⟨false, false, row⟩ with
        | some child => some (t.set k (.tables (rows.dropLast ++ [child.entries])))
        | none => none

def addEntry (path : List String) (value : Document) (t : Table) : Option Table :=
  let front := path.dropLast
  match path.getLast? with
  | none => none
  | some k =>
    within true (fun t => if t.dotted == front.isEmpty || t.has k then none else some (t.set k (.value value))) front t

mutual

def Node.document : Node → Document
  | .value d => d
  | .table _ _ entries => .table (entriesDocument entries)
  | .tables rows => .list (rowsDocument rows)

def entriesDocument : List (String × Node) → List (String × Document)
  | [] => []
  | (k, n) :: rest => Document.insertKey k n.document (entriesDocument rest)

def rowsDocument : List (List (String × Node)) → List Document
  | [] => []
  | row :: rest => .table (entriesDocument row) :: rowsDocument rest

end

def Table.document (t : Table) : Document := .table (entriesDocument t.entries)

/-- A text read so far: the finished part, and the table that the last header opened. -/
structure Progress where
  root : Table := {}
  current : Table := {}
  path : List String := []
  isRow : Bool := false

namespace Progress

def close (p : Progress) : Option Table :=
  match p.path.getLast? with
  | none => some p.current
  | some k =>
    within false (fun t =>
      if p.isRow then
        match t.find? k with
        | none => some (t.set k (.tables [p.current.entries]))
        | some (.tables rows) => some (t.set k (.tables (rows ++ [p.current.entries])))
        | some _ => none
      else some (t.set k p.current.toNode)) p.path.dropLast p.root

def openTable (path : List String) (root : Table) : Option Progress := do
  let k ← path.getLast?
  let parent := path.dropLast
  let found ← lookIn parent root
  match found.find? k with
  | none =>
    let root ← within false some parent root
    some ⟨root, {}, path, false⟩
  | some (.table true false entries) =>
    let root ← within false (fun t => some (t.erase k)) parent root
    some ⟨root, ⟨false, false, entries⟩, path, false⟩
  | some _ => none
where
  lookIn : List String → Table → Option Table
    | [], t => some t
    | k :: path, t =>
      match t.find? k with
      | none => some {}
      | some (.value _) => none
      | some (.table implied dotted entries) => lookIn path ⟨implied, dotted, entries⟩
      | some (.tables rows) => (rows.getLast?).bind fun row => lookIn path ⟨false, false, row⟩

def openRow (path : List String) (root : Table) : Option Progress := do
  let k ← path.getLast?
  let root ← within false (fun t =>
    match t.find? k with
    | none => some t
    | some (.tables _) => some t
    | some _ => none) path.dropLast root
  some ⟨root, {}, path, true⟩

end Progress

end Turnstile.Toml
