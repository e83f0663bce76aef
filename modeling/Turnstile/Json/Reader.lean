import Turnstile.Document
import Turnstile.Json.Number

namespace Turnstile.Json.Reader

def isBlank (c : Char) : Bool := c = ' ' || c = '\t' || c = '\n' || c = '\r'

def skip (cs : List Char) : List Char := cs.dropWhile isBlank

def hexDigit? (c : Char) : Option Nat :=
  if c.isDigit then some (c.toNat - 48)
  else if 'a' ≤ c && c ≤ 'f' then some (c.toNat - 87)
  else if 'A' ≤ c && c ≤ 'F' then some (c.toNat - 55)
  else none

def hex4? : List Char → Option (Nat × List Char)
  | a :: b :: c :: d :: rest => do
    let a ← hexDigit? a
    let b ← hexDigit? b
    let c ← hexDigit? c
    let d ← hexDigit? d
    some (a * 4096 + b * 256 + c * 16 + d, rest)
  | _ => none

/-- A code unit after a backslash and `u`; one above U+FFFF takes a second unit. -/
def unicodeEscape? (cs : List Char) : Option (Char × List Char) := do
  let (n, rest) ← hex4? cs
  if 0xD800 ≤ n && n < 0xDC00 then
    match rest with
    | '\\' :: 'u' :: rest =>
      let (m, rest) ← hex4? rest
      if 0xDC00 ≤ m && m < 0xE000 then
        some (Char.ofNat (0x10000 + (n - 0xD800) * 1024 + (m - 0xDC00)), rest)
      else none
    | _ => none
  else if 0xDC00 ≤ n && n < 0xE000 then none
  else some (Char.ofNat n, rest)

def simpleEscape? : Char → Option Char
  | '"' => some '"'
  | '\\' => some '\\'
  | '/' => some '/'
  | 'b' => some '\x08'
  | 'f' => some '\x0c'
  | 'n' => some '\n'
  | 'r' => some '\r'
  | 't' => some '\t'
  | _ => none

/-- The text after an opening quote, up to the closing one. -/
def text? : Nat → List Char → List Char → Option (String × List Char)
  | 0, _, _ => none
  | _ + 1, _, [] => none
  | fuel + 1, done, c :: rest =>
    if c = '"' then some (String.ofList done.reverse, rest)
    else if c = '\\' then
      match rest with
      | 'u' :: rest =>
        match unicodeEscape? rest with
        | some (u, rest) => text? fuel (u :: done) rest
        | none => none
      | e :: rest =>
        match simpleEscape? e with
        | some u => text? fuel (u :: done) rest
        | none => none
      | [] => none
    else if c.toNat < 32 then none
    else text? fuel (c :: done) rest

def exponent? (cs : List Char) : Option (Int × List Char) :=
  let (negative, cs) : Bool × List Char :=
    match cs with
    | '-' :: rest => (true, rest)
    | '+' :: rest => (false, rest)
    | _ => (false, cs)
  let digits := cs.takeWhile Char.isDigit
  let n : Nat := digits.foldl (fun n c => min (n * 10 + (c.toNat - 48)) 0x80000000) 0
  if digits.isEmpty then none
  else some (if negative then -(n : Int) else n, cs.dropWhile Char.isDigit)

def isExponentMark (c : Char) : Bool := c = 'e' || c = 'E'

def number? (negative : Bool) (cs : List Char) : Option (Document × List Char) :=
  let whole := cs.takeWhile Char.isDigit
  let rest := cs.dropWhile Char.isDigit
  let binary (fraction : List Char) (power : Int) : Option Document :=
    let (n, e) := Number.withFraction whole fraction
    (Number.binary? negative n (e + power)).map .float
  let power? (fraction : List Char) (cs : List Char) : Option (Document × List Char) :=
    match cs with
    | c :: rest =>
      if isExponentMark c then do
        let (p, rest) ← exponent? rest
        let d ← binary fraction p
        some (d, rest)
      else (binary fraction 0).map (·, cs)
    | [] => (binary fraction 0).map (·, cs)
  if whole.isEmpty || (whole.head? = some '0' && whole.length > 1) then none
  else
    match rest with
    | '.' :: after =>
      let fraction := after.takeWhile Char.isDigit
      if fraction.isEmpty then none else power? fraction (after.dropWhile Char.isDigit)
    | c :: _ =>
      if isExponentMark c then power? [] rest else plain rest
    | [] => plain rest
where
  plain (rest : List Char) : Option (Document × List Char) :=
    let whole := cs.takeWhile Char.isDigit
    let n : Nat := whole.foldl (fun n c => n * 10 + (c.toNat - 48)) 0
    if !negative && n < 0x10000000000000000 then some (.integer n, rest)
    else if negative && 0 < n && n ≤ 0x8000000000000000 then some (.integer (-(n : Int)), rest)
    else
      let (m, e) := Number.withFraction whole []
      (Number.binary? negative m e).map fun bits => (.float bits, rest)

mutual

def value? : Nat → List Char → Option (Document × List Char)
  | 0, _ => none
  | fuel + 1, cs =>
    match skip cs with
    | '"' :: rest => (text? (rest.length + 1) [] rest).map fun (s, rest) => (.text s, rest)
    | '[' :: rest =>
      match skip rest with
      | ']' :: rest => some (.list [], rest)
      | _ => items? fuel [] rest
    | '\x7b' :: rest =>
      match skip rest with
      | '\x7d' :: rest => some (.table [], rest)
      | _ => entries? fuel [] rest
    | 'n' :: 'u' :: 'l' :: 'l' :: rest => some (.null, rest)
    | 't' :: 'r' :: 'u' :: 'e' :: rest => some (.bool true, rest)
    | 'f' :: 'a' :: 'l' :: 's' :: 'e' :: rest => some (.bool false, rest)
    | '-' :: rest => number? true rest
    | rest => number? false rest

def items? : Nat → List Document → List Char → Option (Document × List Char)
  | 0, _, _ => none
  | fuel + 1, done, cs =>
    match value? fuel cs with
    | none => none
    | some (d, rest) =>
      match skip rest with
      | ',' :: rest => items? fuel (d :: done) rest
      | ']' :: rest => some (.list (d :: done).reverse, rest)
      | _ => none

def entries? : Nat → List (String × Document) → List Char → Option (Document × List Char)
  | 0, _, _ => none
  | fuel + 1, done, cs =>
    match skip cs with
    | '"' :: rest =>
      match text? (rest.length + 1) [] rest with
      | none => none
      | some (k, rest) =>
        match skip rest with
        | ':' :: rest =>
          match value? fuel rest with
          | none => none
          | some (d, rest) =>
            match skip rest with
            | ',' :: rest => entries? fuel (Document.insertKey k d done) rest
            | '\x7d' :: rest => some (.table (Document.insertKey k d done), rest)
            | _ => none
        | _ => none
    | _ => none

end

/-- One value and nothing else but blanks; every turn of the reader consumes a character. -/
def read? (cs : List Char) : Option Document :=
  match value? (cs.length + 1) cs with
  | some (d, rest) => if (skip rest).isEmpty then some d else none
  | none => none

end Turnstile.Json.Reader
