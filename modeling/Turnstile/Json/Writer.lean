import Turnstile.Document
import Turnstile.Json.Number

namespace Turnstile.Json.Writer

def hexDigit (n : Nat) : Char := if n < 10 then Char.ofNat (48 + n) else Char.ofNat (87 + n)

/-- Quotes, backslashes and control characters are escaped; everything else stands for itself. -/
def escaped (c : Char) : List Char :=
  if c = '"' then ['\\', '"']
  else if c = '\\' then ['\\', '\\']
  else if c = '\x08' then ['\\', 'b']
  else if c = '\t' then ['\\', 't']
  else if c = '\n' then ['\\', 'n']
  else if c = '\x0c' then ['\\', 'f']
  else if c = '\r' then ['\\', 'r']
  else if c.toNat < 32 then ['\\', 'u', '0', '0', hexDigit (c.toNat / 16), hexDigit (c.toNat % 16)]
  else [c]

def quoted (s : String) : List Char := '"' :: s.toList.flatMap escaped ++ ['"']

def integer : Int → List Char
  | .ofNat n => Nat.toDigits 10 n
  | .negSucc n => '-' :: Nat.toDigits 10 (n + 1)

mutual

def compact : Document → List Char
  | .null => "null".toList
  | .bool true => "true".toList
  | .bool false => "false".toList
  | .integer n => integer n
  | .float bits => Number.write bits
  | .text s => quoted s
  | .moment s => quoted s
  | .list [] => ['[', ']']
  | .list (d :: ds) => '[' :: compact d ++ compactItems ds
  | .table [] => ['\x7b', '\x7d']
  | .table ((k, d) :: es) => '\x7b' :: quoted k ++ ':' :: compact d ++ compactEntries es

def compactItems : List Document → List Char
  | [] => [']']
  | d :: ds => ',' :: compact d ++ compactItems ds

def compactEntries : List (String × Document) → List Char
  | [] => ['\x7d']
  | (k, d) :: es => ',' :: quoted k ++ ':' :: compact d ++ compactEntries es

end

def newline (level : Nat) : List Char := '\n' :: List.replicate (2 * level) ' '

mutual

def prettyAt (level : Nat) : Document → List Char
  | .list (d :: ds) => '[' :: newline (level + 1) ++ prettyAt (level + 1) d ++ prettyItems level ds
  | .table ((k, d) :: es) =>
    '\x7b' :: newline (level + 1) ++ quoted k ++ [':', ' '] ++ prettyAt (level + 1) d ++ prettyEntries level es
  | d => compact d

def prettyItems (level : Nat) : List Document → List Char
  | [] => newline level ++ [']']
  | d :: ds => ',' :: newline (level + 1) ++ prettyAt (level + 1) d ++ prettyItems level ds

def prettyEntries (level : Nat) : List (String × Document) → List Char
  | [] => newline level ++ ['\x7d']
  | (k, d) :: es =>
    ',' :: newline (level + 1) ++ quoted k ++ [':', ' '] ++ prettyAt (level + 1) d ++ prettyEntries level es

end

def pretty (d : Document) : List Char := prettyAt 0 d

end Turnstile.Json.Writer
