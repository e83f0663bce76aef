namespace Turnstile

abbrev Bytes := List UInt8

namespace Bytes

def ofChars (cs : List Char) : Bytes := cs.flatMap String.utf8EncodeChar

def ofString (s : String) : Bytes := ofChars s.toList

def isTail (b : UInt8) : Bool := 0x80 ≤ b && b ≤ 0xBF

/-- The least and greatest second octet that may follow a given first octet. -/
def secondRange (b : UInt8) : UInt8 × UInt8 :=
  if b = 0xE0 then (0xA0, 0xBF) else if b = 0xED then (0x80, 0x9F)
  else if b = 0xF0 then (0x90, 0xBF) else if b = 0xF4 then (0x80, 0x8F) else (0x80, 0xBF)

def secondOk (a b : UInt8) : Bool := (secondRange a).1 ≤ b && b ≤ (secondRange a).2

def payload (b : UInt8) : Nat := b.toNat % 64

def decodeChar? : Bytes → Option (Char × Bytes)
  | [] => none
  | a :: s =>
    if a < 0x80 then some (Char.ofNat a.toNat, s)
    else if 0xC2 ≤ a && a ≤ 0xDF then
      match s with
      | b :: s => if isTail b then some (Char.ofNat (a.toNat % 32 * 64 + payload b), s) else none
      | _ => none
    else if 0xE0 ≤ a && a ≤ 0xEF then
      match s with
      | b :: c :: s =>
        if secondOk a b && isTail c then
          some (Char.ofNat (a.toNat % 16 * 4096 + payload b * 64 + payload c), s) else none
      | _ => none
    else if 0xF0 ≤ a && a ≤ 0xF4 then
      match s with
      | b :: c :: d :: s =>
        if secondOk a b && isTail c && isTail d then
          some (Char.ofNat (a.toNat % 8 * 262144 + payload b * 4096 + payload c * 64 + payload d), s) else none
      | _ => none
    else none

def decodeWith : Nat → List Char → Bytes → Option (List Char)
  | _, done, [] => some done.reverse
  | 0, _, _ :: _ => none
  | fuel + 1, done, s =>
    match decodeChar? s with
    | some (c, rest) => decodeWith fuel (c :: done) rest
    | none => none

/-- The text that the octets spell in UTF-8; each code point takes at least one octet. -/
def toChars? (s : Bytes) : Option (List Char) := decodeWith s.length [] s

def toString? (s : Bytes) : Option String := (toChars? s).map String.ofList

def lowerOctet (b : UInt8) : UInt8 := if 0x41 ≤ b && b ≤ 0x5A then b + 0x20 else b

/-- ASCII letters in lower case, all other octets as they are. -/
def lower (s : Bytes) : Bytes := s.map lowerOctet

def isDigit (b : UInt8) : Bool := 0x30 ≤ b && b ≤ 0x39

def isAlpha (b : UInt8) : Bool := (0x41 ≤ b && b ≤ 0x5A) || (0x61 ≤ b && b ≤ 0x7A)

def isAlphanumeric (b : UInt8) : Bool := isDigit b || isAlpha b

def isOneOf (set : String) (b : UInt8) : Bool := set.toList.any (fun c => c.toNat == b.toNat)

def isHexDigit (b : UInt8) : Bool := isDigit b || (0x41 ≤ b && b ≤ 0x46) || (0x61 ≤ b && b ≤ 0x66)

def hexValue? (b : UInt8) : Option Nat :=
  if isDigit b then some (b.toNat - 0x30)
  else if 0x41 ≤ b && b ≤ 0x46 then some (b.toNat - 0x41 + 10)
  else if 0x61 ≤ b && b ≤ 0x66 then some (b.toNat - 0x61 + 10)
  else none

def dropEnd (p : UInt8 → Bool) (s : Bytes) : Bytes := (s.reverse.dropWhile p).reverse

def afterBeginning? : (beginning s : Bytes) → Option Bytes
  | [], s => some s
  | _ :: _, [] => none
  | b :: bs, c :: cs => if b = c then afterBeginning? bs cs else none

theorem afterBeginning?_eq_some_iff {beginning s rest : Bytes} :
    afterBeginning? beginning s = some rest ↔ s = beginning ++ rest := by
  induction beginning generalizing s with
  | nil => simp [afterBeginning?, eq_comm]
  | cons b bs ih =>
    cases s with
    | nil => simp [afterBeginning?]
    | cons c cs =>
      by_cases h : b = c
      · simp [afterBeginning?, h, ih]
      · simp [afterBeginning?, h, Ne.symm h]

def ofNat (n : Nat) : Bytes := ofChars (Nat.toDigits 10 n)

def toNat? (s : Bytes) : Option Nat :=
  if s.isEmpty || !s.all isDigit then none
  else some (s.foldl (fun n b => n * 10 + (b.toNat - 0x30)) 0)

end Bytes

end Turnstile
