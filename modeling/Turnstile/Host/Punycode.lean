namespace Turnstile.Host.Punycode

def digit (n : Nat) : Nat := if n < 26 then 0x61 + n else 0x30 + (n - 26)

def digitValue? (c : Nat) : Option Nat :=
  if 0x61 ≤ c && c ≤ 0x7A then some (c - 0x61)
  else if 0x41 ≤ c && c ≤ 0x5A then some (c - 0x41)
  else if 0x30 ≤ c && c ≤ 0x39 then some (c - 0x30 + 26)
  else none

def threshold (place bias : Nat) : Nat := if place ≤ bias then 1 else if place ≥ bias + 26 then 26 else place - bias

def reduce : Nat → Nat → Nat → Nat
  | 0, delta, k => k + 36 * delta / (delta + 38)
  | fuel + 1, delta, k => if delta > 455 then reduce fuel (delta / 35) (k + 36) else k + 36 * delta / (delta + 38)

def adapt (delta count : Nat) (first : Bool) : Nat :=
  let delta := if first then delta / 700 else delta / 2
  reduce delta (delta + delta / count) 0

def distance? (bias : Nat) : (place weight sum : Nat) → List Nat → Option (Nat × List Nat)
  | _, _, _, [] => none
  | place, weight, sum, c :: cs =>
    match digitValue? c with
    | none => none
    | some d =>
      let sum := sum + d * weight
      let t := threshold place bias
      if d < t then some (sum, cs) else distance? bias (place + 36) (weight * (36 - t)) sum cs

def isScalar (n : Nat) : Bool := n < 0xD800 || (0xE000 ≤ n && n ≤ 0x10FFFF)

def insertAt (i c : Nat) (cs : List Nat) : List Nat := cs.take i ++ c :: cs.drop i

/-- Puts the characters that the distances describe into their places; every distance takes a digit. -/
def decodeFrom : (fuel n i bias : Nat) → List Nat → List Nat → Option (List Nat)
  | _, _, _, _, out, [] => some out
  | 0, _, _, _, _, _ :: _ => none
  | fuel + 1, n, i, bias, out, digits =>
    match distance? bias 36 1 0 digits with
    | none => none
    | some (d, rest) =>
      let size := out.length + 1
      let place := i + d
      let n := n + place / size
      if isScalar n then
        decodeFrom fuel n (place % size + 1) (adapt d size (i = 0)) (insertAt (place % size) n out) rest
      else none

def decode? (cs : List Nat) : Option (List Nat) :=
  let tail := (cs.reverse.takeWhile (· != 0x2D)).reverse
  if tail.length < cs.length && tail.length + 1 < cs.length then
    decodeFrom tail.length 128 0 72 (cs.take (cs.length - tail.length - 1)) tail
  else decodeFrom cs.length 128 0 72 [] cs

def writeDistance (bias : Nat) : (fuel place q : Nat) → List Nat
  | 0, _, q => [digit q]
  | fuel + 1, place, q =>
    let t := threshold place bias
    if q < t then [digit q]
    else digit (t + (q - t) % (36 - t)) :: writeDistance bias fuel (place + 36) ((q - t) / (36 - t))

structure Progress where
  written : List Nat
  delta : Nat
  bias : Nat
  handled : Nat

/-- Passes one character of the label while the characters equal to `n` are being written. -/
def Progress.pass (basic n : Nat) (p : Progress) (c : Nat) : Progress :=
  if c < n then { p with delta := p.delta + 1 }
  else if c = n then
    { written := p.written ++ writeDistance p.bias p.delta 36 p.delta
      delta := 0
      bias := adapt p.delta (p.handled + 1) (p.handled = basic)
      handled := p.handled + 1 }
  else p

def encodeFrom (cs : List Nat) (basic : Nat) : (fuel n : Nat) → Progress → Progress
  | 0, _, p => p
  | fuel + 1, n, p =>
    match (cs.filter (· ≥ n)).min? with
    | none => p
    | some m =>
      let p := { p with delta := p.delta + (m - n) * (p.handled + 1) }
      let p := cs.foldl (Progress.pass basic m) p
      encodeFrom cs basic fuel (m + 1) { p with delta := p.delta + 1 }

def encode (cs : List Nat) : List Nat :=
  let basic := cs.filter (· < 128)
  let lead := if basic.isEmpty then [] else basic ++ [0x2D]
  lead ++ (encodeFrom cs basic.length cs.length 128 ⟨[], 0, 72, basic.length⟩).written

end Turnstile.Host.Punycode
