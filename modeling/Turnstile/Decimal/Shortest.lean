namespace Turnstile.Decimal.Shortest

/-- A magnitude `m * 2 ^ q`, and whether the gap below it is half the gap above it. -/
structure Magnitude where
  m : Nat
  q : Int
  narrowBelow : Bool

def ofBits (bits : UInt64) : Magnitude :=
  let fraction := bits.toNat % 0x10000000000000
  let exponent := bits.toNat / 0x10000000000000 % 2048
  if exponent = 0 then ⟨fraction, -1074, false⟩
  else ⟨fraction + 0x10000000000000, Int.ofNat exponent - 1075, fraction = 0 && exponent > 1⟩

def isFinite (bits : UInt64) : Bool := bits.toNat / 0x10000000000000 % 2048 != 2047

def isNegative (bits : UInt64) : Bool := bits.toNat / 0x8000000000000000 == 1

/-- The two sides of `d * 10 ^ e` against `k * 2 ^ (q - 2)`, brought to whole numbers. -/
def scaled (d : Nat) (e : Int) (k : Nat) (q : Int) : Nat × Nat :=
  (d * Nat.pow 10 e.toNat * Nat.pow 2 (2 - q).toNat, k * Nat.pow 2 (q - 2).toNat * Nat.pow 10 (-e).toNat)

def Magnitude.lower (x : Magnitude) : Nat := 4 * x.m - if x.narrowBelow then 1 else 2

def Magnitude.upper (x : Magnitude) : Nat := 4 * x.m + 2

def Magnitude.holds (x : Magnitude) (d : Nat) (e : Int) : Bool :=
  let low := scaled d e x.lower x.q
  let high := scaled d e x.upper x.q
  if x.m % 2 = 0 then low.2 ≤ low.1 && high.1 ≤ high.2 else low.2 < low.1 && high.1 < high.2

def Magnitude.quotient (x : Magnitude) (e : Int) : Nat :=
  x.m * Nat.pow 2 x.q.toNat * Nat.pow 10 (-e).toNat / (Nat.pow 2 (-x.q).toNat * Nat.pow 10 e.toNat)

def Magnitude.position (x : Magnitude) : Int :=
  ((Nat.toDigits 10 (x.quotient (-400))).length : Int) - 400

def Magnitude.nearer (x : Magnitude) (d : Nat) (e : Int) : Nat :=
  let middle := scaled (2 * d + 1) e (8 * x.m) x.q
  if middle.2 < middle.1 then d else if middle.1 < middle.2 then d + 1
  else if d % 2 = 0 then d else d + 1

def Magnitude.onGrid? (x : Magnitude) (digits : Nat) : Option (Nat × Int) :=
  let e := x.position - digits
  let d := x.quotient e
  match x.holds d e, x.holds (d + 1) e with
  | true, true => some (x.nearer d e, e)
  | true, false => some (d, e)
  | false, true => some (d + 1, e)
  | false, false => none

def trim (d : Nat) (e : Int) : Nat × Int := if d % 10 = 0 then (d / 10, e + 1) else (d, e)

def shortest (x : Magnitude) : Nat × Int :=
  if x.m = 0 then (0, 0)
  else
    match (List.range 17).findSome? fun n => x.onGrid? (n + 1) with
    | some (d, e) => trim d e
    | none => (0, 0)

end Turnstile.Decimal.Shortest
