import Turnstile.Bytes

namespace Turnstile.Host.Ip

def dot : UInt8 := 0x2E
def colon : UInt8 := 0x3A
def zero : UInt8 := 0x30

def isOctal (b : UInt8) : Bool := 0x30 ≤ b && b ≤ 0x37

/-- A number below 2^32: hexadecimal after `0x`, octal after another leading zero, else decimal. `none` stands for a text
that is no number, `some none` for a number that is too large. -/
def number? (s : Bytes) : Option (Option Nat) :=
  let value (radix : Nat) (ok : UInt8 → Bool) (digits : Bytes) : Option (Option Nat) :=
    if digits.all ok then
      let n := digits.foldl (fun n b => n * radix + (Bytes.hexValue? b).getD 0) 0
      some (if n < 0x100000000 then some n else none)
    else none
  match s with
  | [] => none
  | [_] => value 10 Bytes.isDigit s
  | a :: b :: rest =>
    if a = zero then
      if b = 0x78 || b = 0x58 then value 16 Bytes.isHexDigit rest else value 8 isOctal (b :: rest)
    else value 10 Bytes.isDigit s

def dropFinalEmpty (parts : List Bytes) : List Bytes := if parts.getLast? = some [] then parts.dropLast else parts

def endsInNumber (s : Bytes) : Bool :=
  match (dropFinalEmpty (s.splitOn dot)).getLast? with
  | none => false
  | some last => (!last.isEmpty && last.all Bytes.isDigit) || (number? last).isSome

def v4? (s : Bytes) : Option Nat := do
  let parts := dropFinalEmpty (s.splitOn dot)
  if parts.length > 4 then none
  else
    let numbers ← parts.mapM fun p => (number? p).join
    let last ← numbers.getLast?
    let front := numbers.dropLast
    if last < Nat.pow 256 (4 - front.length) && front.all (· < 256) then
      some (front.zipIdx.foldl (fun n (m, i) => n + m * Nat.pow 256 (3 - i)) last)
    else none

def v4Text (n : Nat) : Bytes :=
  List.intercalate [dot] ([n / 0x1000000 % 256, n / 0x10000 % 256, n / 256 % 256, n % 256].map Bytes.ofNat)

/-- The groups read so far, and how many stood before the gap. -/
structure Groups where
  values : List Nat := []
  gap : Option Nat := none

def Groups.push (g : Groups) (n : Nat) : Groups := { g with values := g.values ++ [n] }

/-- Decimal octets at the end of an IPv6 host: four numbers below 256 without leading zeros. -/
def tailOctets? (s : Bytes) : Option (List Nat) :=
  let parts := s.splitOn dot
  if parts.length = 4 then
    parts.mapM fun p =>
      if p.length > 1 && p.head? = some zero then none
      else (Bytes.toNat? p).bind fun n => if n < 256 then some n else none
  else none

def groupsFrom : (fuel : Nat) → Groups → Bytes → Option Groups
  | _, g, [] => some g
  | 0, _, _ :: _ => none
  | fuel + 1, g, s@(b :: rest) =>
    if g.values.length = 8 then none
    else if b = colon then
      if g.gap.isSome then none
      else groupsFrom fuel { values := g.values ++ [0], gap := some (g.values.length + 1) } rest
    else
      let digits := (s.take 4).takeWhile Bytes.isHexDigit
      let n := digits.foldl (fun n b => n * 16 + (Bytes.hexValue? b).getD 0) 0
      match s.drop digits.length with
      | [] => some (g.push n)
      | c :: after =>
        if c = dot then
          if digits.isEmpty || g.values.length > 6 then none
          else
            match tailOctets? s with
            | some [w, x, y, z] => some ((g.push (w * 256 + x)).push (y * 256 + z))
            | _ => none
        else if c = colon then if after.isEmpty then none else groupsFrom fuel (g.push n) after
        else none

def v6? (s : Bytes) : Option (List Nat) := do
  let g ←
    match s with
    | a :: b :: rest =>
      if a = colon then if b = colon then groupsFrom s.length ⟨[0], some 1⟩ rest else none
      else groupsFrom s.length {} s
    | _ => none
  match g.gap with
  | none => if g.values.length = 8 then some g.values else none
  | some k => some (g.values.take k ++ List.replicate (8 - g.values.length) 0 ++ g.values.drop k)

def hexText (n : Nat) : Bytes := Bytes.ofChars (Nat.toDigits 16 n)

def zeroRun (groups : List Nat) : Nat := (groups.takeWhile (· = 0)).length

def longestRun (groups : List Nat) : Option (Nat × Nat) :=
  let runs := (List.range 8).map fun i => (i, zeroRun (groups.drop i))
  let best := runs.foldl (fun (best : Nat × Nat) r => if r.2 > best.2 then r else best) (0, 0)
  if best.2 ≥ 2 then some best else none

def joined (groups : List Nat) : Bytes := List.intercalate [colon] (groups.map hexText)

def v6Text (groups : List Nat) : Bytes :=
  match longestRun groups with
  | none => joined groups
  | some (start, length) => joined (groups.take start) ++ [colon, colon] ++ joined (groups.drop (start + length))

end Turnstile.Host.Ip
