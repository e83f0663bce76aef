import Turnstile.Bytes

namespace Turnstile.Url.Percent

def percent : UInt8 := 0x25

def hexDigit (n : Nat) : UInt8 := UInt8.ofNat (if n < 10 then 0x30 + n else 0x37 + n)

def escape (b : UInt8) : Bytes := [percent, hexDigit (b.toNat / 16), hexDigit (b.toNat % 16)]

def encodeOctet (set : UInt8 → Bool) (b : UInt8) : Bytes := if set b || 0x80 ≤ b then escape b else [b]

def encode (set : UInt8 → Bool) (cs : List Char) : Bytes := (Bytes.ofChars cs).flatMap (encodeOctet set)

def unescape? (a b : UInt8) : Option UInt8 := do
  let high ← Bytes.hexValue? a
  let low ← Bytes.hexValue? b
  some (UInt8.ofNat (high * 16 + low))

def decode : Bytes → Bytes
  | p :: a :: b :: rest =>
    if p = percent then
      match unescape? a b with
      | some c => c :: decode rest
      | none => p :: decode (a :: b :: rest)
    else p :: decode (a :: b :: rest)
  | s => s

def isControl (b : UInt8) : Bool := b < 0x20 || b = 0x7F

def inFragment (b : UInt8) : Bool := isControl b || Bytes.isOneOf " \"<>\x60" b

def inQuery (b : UInt8) : Bool := isControl b || Bytes.isOneOf " \"#<>" b

/-- A query of the common schemes escapes the apostrophe as well. -/
def inCommonQuery (b : UInt8) : Bool := inQuery b || b = 0x27

def inPath (b : UInt8) : Bool := inFragment b || Bytes.isOneOf "#?\x7b\x7d" b

def inUserinfo (b : UInt8) : Bool := inPath b || Bytes.isOneOf "/:;=@[\\]^|" b

end Turnstile.Url.Percent
