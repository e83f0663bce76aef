import Turnstile.Bytes

namespace Turnstile.Address

inductive Socket where
  | v4 (octets : List Nat) (port : Nat)
  | v6 (groups : List Nat) (scope : Nat) (port : Nat)
  deriving DecidableEq, Repr

namespace Socket

def colon : UInt8 := 0x3A
def dot : UInt8 := 0x2E

def expect (b : UInt8) : Bytes → Option Bytes
  | [] => none
  | c :: rest => if c = b then some rest else none

def separator (b : UInt8) (index : Nat) (s : Bytes) : Option Bytes := if index = 0 then some s else expect b s

def decimal (limit : Nat) (s : Bytes) : Option (Nat × Bytes) :=
  let (digits, rest) := s.span Bytes.isDigit
  match Bytes.toNat? digits with
  | some n => if n ≤ limit then some (n, rest) else none
  | none => none

/-- A decimal octet of at most three digits without a leading zero. -/
def octet (s : Bytes) : Option (Nat × Bytes) :=
  let digits := s.takeWhile Bytes.isDigit
  if digits.length > 3 || (digits.length > 1 && digits.head? = some 0x30) then none else decimal 255 s

def octets : (left index : Nat) → Bytes → Option (List Nat × Bytes)
  | 0, _, s => some ([], s)
  | left + 1, index, s => do
    let s ← separator dot index s
    let (n, s) ← octet s
    let (ns, s) ← octets left (index + 1) s
    some (n :: ns, s)

def v4Part (s : Bytes) : Option (List Nat × Bytes) := octets 4 0 s

def group (s : Bytes) : Option (Nat × Bytes) :=
  let (digits, rest) := s.span Bytes.isHexDigit
  if digits.isEmpty || digits.length > 4 then none
  else some (digits.foldl (fun n b => n * 16 + (Bytes.hexValue? b).getD 0) 0, rest)

/-- Groups as far as they go; the last two places may be taken by four decimal octets, which end the row. -/
def groups : (left index : Nat) → Bytes → List Nat × Bool × Bytes
  | 0, _, s => ([], false, s)
  | left + 1, index, s =>
    match (if left = 0 then none else (separator colon index s).bind v4Part) with
    | some ([a, b, c, d], rest) => ([a * 256 + b, c * 256 + d], true, rest)
    | _ =>
      match (separator colon index s).bind group with
      | some (n, rest) =>
        let (ns, mixed, rest) := groups left (index + 1) rest
        (n :: ns, mixed, rest)
      | none => ([], false, s)

def v6Part (s : Bytes) : Option (List Nat × Bytes) :=
  let (front, mixed, rest) := groups 8 0 s
  if front.length = 8 then some (front, rest)
  else if mixed then none
  else do
    let rest ← expect colon rest
    let rest ← expect colon rest
    let (back, _, rest) := groups (7 - front.length) 0 rest
    some (front ++ List.replicate (8 - front.length - back.length) 0 ++ back, rest)

def portPart (s : Bytes) : Option (Nat × Bytes) := (expect colon s).bind (decimal 65535)

def scopePart (s : Bytes) : Option (Nat × Bytes) := (expect 0x25 s).bind (decimal 0xFFFFFFFF)

def v4? (s : Bytes) : Option (Socket × Bytes) := do
  let (octets, s) ← v4Part s
  let (port, s) ← portPart s
  some (.v4 octets port, s)

def v6? (s : Bytes) : Option (Socket × Bytes) := do
  let s ← expect 0x5B s
  let (groups, s) ← v6Part s
  let (scope, s) := (scopePart s).getD (0, s)
  let s ← expect 0x5D s
  let (port, s) ← portPart s
  some (.v6 groups scope port, s)

def parse? (s : String) : Option Socket :=
  let s := Bytes.ofString s
  match (v4? s).orElse (fun _ => v6? s) with
  | some (a, []) => some a
  | _ => none

def port : Socket → Nat
  | v4 _ p => p
  | v6 _ _ p => p

end Socket

end Turnstile.Address
