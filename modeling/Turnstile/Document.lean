namespace Turnstile

/-- `float` holds the bits of a binary64 number, `moment` the written form of a date or a time. -/
inductive Document where
  | null
  | bool (value : Bool)
  | integer (value : Int)
  | float (bits : UInt64)
  | text (value : String)
  | moment (written : String)
  | list (items : List Document)
  | table (entries : List (String × Document))
  deriving Inhabited, BEq, Repr

namespace Document

/-- Puts a value under a key, in ascending order of keys; a later value replaces an earlier one. -/
def insertKey (k : String) (v : Document) : List (String × Document) → List (String × Document)
  | [] => [(k, v)]
  | (k', v') :: rest =>
    if k = k' then (k, v) :: rest
    else if k < k' then (k, v) :: (k', v') :: rest
    else (k', v') :: insertKey k v rest

def lookup? (k : String) (entries : List (String × Document)) : Option Document :=
  (entries.find? (·.1 == k)).map (·.2)

def get? (d : Document) (k : String) : Option Document :=
  match d with
  | table entries => lookup? k entries
  | _ => none

def present? (d : Document) (k : String) : Option Document :=
  match d.get? k with
  | some null => none
  | found => found

def text? : Document → Option String
  | text s => some s
  | _ => none

def nat? : Document → Option Nat
  | integer (.ofNat n) => some n
  | _ => none

def items : Document → List Document
  | list ds => ds
  | _ => []

def ofNat (n : Nat) : Document := integer (.ofNat n)

end Document

end Turnstile
