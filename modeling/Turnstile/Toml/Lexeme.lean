import Turnstile.Document

namespace Turnstile.Toml

abbrev Reader (α : Type) := List Char → Option (α × List Char)

namespace Lexeme

def isBlank (c : Char) : Bool := c = ' ' || c = '\t'

def skipBlanks (cs : List Char) : List Char := cs.dropWhile isBlank

def lineEnd? : List Char → Option (List Char)
  | '\n' :: rest => some rest
  | '\r' :: '\n' :: rest => some rest
  | _ => none

def isCommentChar (c : Char) : Bool := c = '\t' || (0x20 ≤ c.toNat && c.toNat ≤ 0x7E) || 0x80 ≤ c.toNat

def skipComment : List Char → List Char
  | '#' :: rest => rest.dropWhile isCommentChar
  | cs => cs

/-- The rest of a line that may hold blanks and a comment only; the last line needs no end. -/
def finishLine? (cs : List Char) : Option (List Char) :=
  match skipComment (skipBlanks cs) with
  | [] => some []
  | rest => lineEnd? rest

def skipLayout : Nat → List Char → List Char
  | 0, cs => cs
  | fuel + 1, cs =>
    match skipBlanks cs with
    | '#' :: rest =>
      match lineEnd? (rest.dropWhile isCommentChar) with
      | some rest => skipLayout fuel rest
      | none => '#' :: rest
    | rest =>
      match lineEnd? rest with
      | some rest => skipLayout fuel rest
      | none => rest

def isBareKeyChar (c : Char) : Bool := c.isAlphanum || c = '_' || c = '-'

def hexDigit? (c : Char) : Option Nat :=
  if c.isDigit then some (c.toNat - 48)
  else if 'a' ≤ c && c ≤ 'f' then some (c.toNat - 87)
  else if 'A' ≤ c && c ≤ 'F' then some (c.toNat - 55)
  else none

def isHexDigit (c : Char) : Bool := (hexDigit? c).isSome

def isScalar (n : Nat) : Bool := n < 0xD800 || (0xE000 ≤ n && n ≤ 0x10FFFF)

def codePoint? (digits : Nat) : Reader Char := fun cs =>
  let word := cs.take digits
  let n := word.foldl (fun n c => n * 16 + (hexDigit? c).getD 0) 0
  if word.length = digits && word.all isHexDigit && isScalar n then some (Char.ofNat n, cs.drop digits) else none

def escape? : Reader Char
  | 'b' :: rest => some ('\x08', rest)
  | 't' :: rest => some ('\t', rest)
  | 'n' :: rest => some ('\n', rest)
  | 'f' :: rest => some ('\x0c', rest)
  | 'r' :: rest => some ('\r', rest)
  | '"' :: rest => some ('"', rest)
  | '\\' :: rest => some ('\\', rest)
  | 'u' :: rest => codePoint? 4 rest
  | 'U' :: rest => codePoint? 8 rest
  | _ => none

def isStringChar (c : Char) : Bool := isCommentChar c

def lineString? (quote : Char) (literal : Bool) : Nat → List Char → Reader String
  | 0, _, _ => none
  | _ + 1, _, [] => none
  | fuel + 1, done, c :: rest =>
    if c = quote then some (String.ofList done.reverse, rest)
    else if c = '\\' && !literal then
      match escape? rest with
      | some (e, rest) => lineString? quote literal fuel (e :: done) rest
      | none => none
    else if isStringChar c then lineString? quote literal fuel (c :: done) rest
    else none

def skipAllBlanks : Nat → List Char → List Char
  | 0, cs => cs
  | fuel + 1, cs =>
    let rest := skipBlanks cs
    match lineEnd? rest with
    | some rest => skipAllBlanks fuel rest
    | none => rest

/-- A backslash at the end of a line hides the line end and all blanks up to the next character. -/
def hiddenLineEnd? (cs : List Char) : Option (List Char) :=
  match lineEnd? (skipBlanks cs) with
  | some rest => some (skipAllBlanks rest.length rest)
  | none => none

/-- A string over several lines after its opening quotes. Line ends become line feeds; up to two quotes may stand right
before the closing three. -/
def blockString? (quote : Char) (literal : Bool) : Nat → List Char → Reader String
  | 0, _, _ => none
  | _ + 1, _, [] => none
  | fuel + 1, done, c :: rest =>
    if c = quote then
      let quotes := 1 + (rest.takeWhile (· = quote)).length
      if quotes ≥ 6 then none
      else if quotes ≥ 3 then
        some (String.ofList (List.replicate (quotes - 3) quote ++ done).reverse, rest.drop (quotes - 1))
      else blockString? quote literal fuel (List.replicate quotes quote ++ done) (rest.drop (quotes - 1))
    else if c = '\\' && !literal then
      match hiddenLineEnd? rest with
      | some rest => blockString? quote literal fuel done rest
      | none =>
        match escape? rest with
        | some (e, rest) => blockString? quote literal fuel (e :: done) rest
        | none => none
    else
      match lineEnd? (c :: rest) with
      | some rest => blockString? quote literal fuel ('\n' :: done) rest
      | none => if isStringChar c then blockString? quote literal fuel (c :: done) rest else none

def dropFirstLineEnd (cs : List Char) : List Char := (lineEnd? cs).getD cs

def string? : Reader String
  | '"' :: '"' :: '"' :: rest => blockString? '"' false (rest.length + 1) [] (dropFirstLineEnd rest)
  | '\'' :: '\'' :: '\'' :: rest => blockString? '\'' true (rest.length + 1) [] (dropFirstLineEnd rest)
  | '"' :: rest => lineString? '"' false (rest.length + 1) [] rest
  | '\'' :: rest => lineString? '\'' true (rest.length + 1) [] rest
  | _ => none

def keyPart? : Reader String
  | '"' :: rest => lineString? '"' false (rest.length + 1) [] rest
  | '\'' :: rest => lineString? '\'' true (rest.length + 1) [] rest
  | cs =>
    let word := cs.takeWhile isBareKeyChar
    if word.isEmpty then none else some (String.ofList word, cs.dropWhile isBareKeyChar)

def depthLimit : Nat := 80

def keyParts? : Nat → Reader (List String)
  | 0, _ => none
  | fuel + 1, cs =>
    match keyPart? (skipBlanks cs) with
    | none => none
    | some (k, rest) =>
      match skipBlanks rest with
      | '.' :: rest => (keyParts? fuel rest).map fun (ks, rest) => (k :: ks, rest)
      | rest => some ([k], rest)

def key? : Reader (List String) := keyParts? (depthLimit - 1)

def digits? (ok : Char → Bool) : Nat → List Char → Reader (List Char)
  | 0, _, _ => none
  | _ + 1, done, [] => if done.isEmpty then none else some (done.reverse, [])
  | fuel + 1, done, c :: rest =>
    if ok c then digits? ok fuel (c :: done) rest
    else if c = '_' && !done.isEmpty then
      match rest with
      | d :: rest => if ok d then digits? ok fuel (d :: done) rest else none
      | [] => none
    else if done.isEmpty then none
    else some (done.reverse, c :: rest)

def grouped? (ok : Char → Bool) : Reader (List Char) := fun cs => digits? ok (cs.length + 1) [] cs

def sign : List Char → Bool × List Char
  | '-' :: rest => (true, rest)
  | '+' :: rest => (false, rest)
  | cs => (false, cs)

def valueOf (radix : Nat) (ds : List Char) : Nat := ds.foldl (fun n c => n * radix + (hexDigit? c).getD 0) 0

def whole? : Reader (List Char)
  | '0' :: rest => some (['0'], rest)
  | cs => grouped? Char.isDigit cs

def inRange (n : Int) : Bool := -0x8000000000000000 ≤ n && n < 0x8000000000000000

def radixInteger? (radix : Nat) (ok : Char → Bool) : Reader Document := fun cs => do
  let (ds, rest) ← grouped? ok cs
  let n : Int := valueOf radix ds
  if inRange n then some (.integer n, rest) else none

def isOctal (c : Char) : Bool := '0' ≤ c && c ≤ '7'

def isBinary (c : Char) : Bool := c = '0' || c = '1'

/-- A whole number of 64 bits with its sign: decimal, or unsigned in base 16, 8 or 2. -/
def integer? : Reader Document
  | '0' :: 'x' :: rest => radixInteger? 16 isHexDigit rest
  | '0' :: 'o' :: rest => radixInteger? 8 isOctal rest
  | '0' :: 'b' :: rest => radixInteger? 2 isBinary rest
  | cs => do
    let (negative, rest) := sign cs
    let (ds, rest) ← whole? rest
    let n : Int := valueOf 10 ds
    let n := if negative then -n else n
    if inRange n then some (.integer n, rest) else none

def overflows (n : Nat) (e : Int) : Bool :=
  let size := ((Nat.toDigits 10 n).length : Int) + e
  if n = 0 || size < 300 then false
  else if size > 310 then true
  else n * Nat.pow 10 e.toNat ≥ (Nat.pow 2 1024 - Nat.pow 2 970) * Nat.pow 10 (-e).toNat

def fraction? : Reader (List Char)
  | '.' :: rest => grouped? Char.isDigit rest
  | _ => none

def power? : Reader Int
  | c :: rest =>
    if c = 'e' || c = 'E' then do
      let (negative, rest) := sign rest
      let (ds, rest) ← grouped? Char.isDigit rest
      let n : Int := valueOf 10 ds
      some (if negative then -n else n, rest)
    else none
  | [] => none

def named? (negative : Bool) (bits : UInt64) : Document := .float (if negative then bits ||| 0x8000000000000000 else bits)

def binary? (negative : Bool) (n : Nat) (e : Int) : Option Document :=
  if overflows n e then if negative then some (named? true 0x7FF0000000000000) else none
  else
    let x := Float.ofScientific n (e < 0) e.natAbs
    some (.float (if negative then -x else x).toBits)

/-- A number with a fraction or a power of ten, or one of the names `inf` and `nan`. -/
def float? : Reader Document := fun cs =>
  let (negative, rest) := sign cs
  match rest with
  | 'i' :: 'n' :: 'f' :: rest => some (named? negative 0x7FF0000000000000, rest)
  | 'n' :: 'a' :: 'n' :: rest => some (named? negative 0x7FF8000000000000, rest)
  | _ =>
    match whole? rest with
    | none => none
    | some (ds, rest) =>
      match rest with
      | '.' :: _ => do
        let (fs, rest) ← fraction? rest
        match rest with
        | c :: _ =>
          if c = 'e' || c = 'E' then do
            let (p, rest) ← power? rest
            let d ← binary? negative (valueOf 10 (ds ++ fs)) (p - fs.length)
            some (d, rest)
          else (binary? negative (valueOf 10 (ds ++ fs)) (-(fs.length : Int))).map (·, rest)
        | [] => (binary? negative (valueOf 10 (ds ++ fs)) (-(fs.length : Int))).map (·, rest)
      | _ => do
        let (p, rest) ← power? rest
        let d ← binary? negative (valueOf 10 ds) p
        some (d, rest)

def field? (digits low high : Nat) : Reader Nat := fun cs =>
  let word := cs.take digits
  let n := valueOf 10 word
  if word.length = digits && word.all Char.isDigit && low ≤ n && n ≤ high then some (n, cs.drop digits) else none

def mark? (c : Char) : List Char → Option (List Char)
  | [] => none
  | d :: rest => if c = d then some rest else none

def daysIn (year month : Nat) : Nat :=
  if month = 2 then if year % 4 = 0 && (year % 100 ≠ 0 || year % 400 = 0) then 29 else 28
  else if month = 4 || month = 6 || month = 9 || month = 11 then 30 else 31

def date? (cs : List Char) : Option (List Char) := do
  let (year, cs) ← field? 4 0 9999 cs
  let cs ← mark? '-' cs
  let (month, cs) ← field? 2 1 12 cs
  let cs ← mark? '-' cs
  let (_, cs) ← field? 2 1 (daysIn year month) cs
  some cs

def time? (cs : List Char) : Option (List Char) := do
  let (_, cs) ← field? 2 0 23 cs
  let cs ← mark? ':' cs
  let (_, cs) ← field? 2 0 59 cs
  let cs ← mark? ':' cs
  let (_, cs) ← field? 2 0 60 cs
  match cs with
  | '.' :: rest => if (rest.takeWhile Char.isDigit).isEmpty then some cs else some (rest.dropWhile Char.isDigit)
  | _ => some cs

def offset? : List Char → Option (List Char)
  | 'Z' :: rest => some rest
  | 'z' :: rest => some rest
  | c :: rest =>
    if c = '+' || c = '-' then do
      let (_, rest) ← field? 2 0 23 rest
      let rest ← mark? ':' rest
      let (_, rest) ← field? 2 0 59 rest
      some rest
    else some (c :: rest)
  | [] => some []

def timeAfterDate? : List Char → Option (List Char)
  | c :: rest =>
    if c = 'T' || c = 't' then (time? rest).bind offset?
    else if c = ' ' then
      match field? 2 0 23 rest with
      | some _ => (time? rest).bind offset?
      | none => some (c :: rest)
    else some (c :: rest)
  | [] => some []

def looksLikeDate (cs : List Char) : Bool := (cs.take 4).all Char.isDigit && cs[4]? = some '-'

def looksLikeTime (cs : List Char) : Bool := (cs.take 2).all Char.isDigit && cs[2]? = some ':'

def written (before after : List Char) : String := String.ofList (before.take (before.length - after.length))

def moment? : Reader Document := fun cs =>
  let after := if looksLikeDate cs then (date? cs).bind timeAfterDate? else time? cs
  after.map fun rest => (.moment (written cs rest), rest)

def looksLikeFloat (cs : List Char) : Bool :=
  let (_, rest) := sign cs
  match rest with
  | 'i' :: _ => true
  | 'n' :: _ => true
  | _ =>
    match whole? rest with
    | some (_, c :: _) => c = '.' || c = 'e' || c = 'E'
    | _ => false

def number? : Reader Document := fun cs =>
  if looksLikeDate cs || looksLikeTime cs then moment? cs
  else if looksLikeFloat cs then float? cs
  else integer? cs

end Lexeme

end Turnstile.Toml
