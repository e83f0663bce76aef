import Turnstile.Decimal.Shortest

namespace Turnstile.Json.Number

open Turnstile.Decimal

/-- The largest row of digits that fits in 64 bits, and how many digits were left over. -/
def significand : Nat → List Char → Nat × Nat
  | n, [] => (n, 0)
  | n, c :: cs =>
    let next := n * 10 + (c.toNat - 48)
    if next < 0x10000000000000000 then significand next cs else (n, cs.length + 1)

def withFraction (whole : List Char) (fraction : List Char) : Nat × Int :=
  match significand 0 whole with
  | (n, 0) =>
    let r := significand n fraction
    (r.1, -((fraction.length - r.2 : Nat) : Int))
  | (n, left) =>
    let r := significand n fraction
    (r.1, (left : Int) - ((fraction.length - r.2 : Nat) : Int))

def scale : Nat → Float → Int → Float
  | 0, x, _ => x
  | fuel + 1, x, e =>
    if e.natAbs ≤ 308 then
      if e < 0 then x / Float.ofScientific 1 false e.natAbs else x * Float.ofScientific 1 false e.natAbs
    else if x == 0.0 then x
    else if e < 0 then scale fuel (x / Float.ofScientific 1 false 308) (e + 308)
    else 1.0 / 0.0

def binary? (negative : Bool) (digits : Nat) (exponent : Int) : Option UInt64 :=
  let x := scale 10 (Float.ofNat digits) exponent
  if x.isInf then none else some (if negative then -x else x).toBits

def zeros (n : Nat) : List Char := List.replicate n '0'

/-- Positional from 10^-5 up to 10^16, with an exponent outside that range. -/
def write (bits : UInt64) : List Char :=
  let (d, e) := Shortest.shortest (Shortest.ofBits bits)
  let digits := Nat.toDigits 10 d
  let point := (digits.length : Int) + e
  let sign := if Shortest.isNegative bits then ['-'] else []
  let body :=
    if d = 0 then "0.0".toList
    else if 0 ≤ e && point ≤ 16 then digits ++ zeros e.toNat ++ ".0".toList
    else if 0 < point && point ≤ 16 then digits.take point.toNat ++ '.' :: digits.drop point.toNat
    else if -5 < point && point ≤ 0 then "0.".toList ++ zeros (-point).toNat ++ digits
    else
      let power := (toString (point - 1)).toList
      match digits with
      | [c] => c :: 'e' :: power
      | c :: cs => c :: '.' :: cs ++ 'e' :: power
      | [] => []
  if Shortest.isFinite bits then sign ++ body else "null".toList

end Turnstile.Json.Number
