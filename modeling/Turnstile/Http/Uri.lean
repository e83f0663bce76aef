import Turnstile.Bytes

namespace Turnstile.Http

inductive UriError where
  | badCharacter
  | badAuthority
  | badFormat
  | empty
  | tooLong
  | schemeTooLong
  deriving DecidableEq, Repr

def UriError.message : UriError → String
  | badCharacter => "invalid uri character"
  | badAuthority => "invalid authority"
  | badFormat => "invalid format"
  | empty => "empty string"
  | tooLong => "uri too long"
  | schemeTooLong => "scheme too long"

/-- An empty `authority` stands for none; `rawPath` may be empty. -/
structure Uri where
  scheme : Option Bytes
  authority : Bytes
  rawPath : Bytes
  query : Option Bytes
  deriving DecidableEq, Repr

namespace Uri

def slash : UInt8 := 0x2F
def question : UInt8 := 0x3F
def hash : UInt8 := 0x23
def colon : UInt8 := 0x3A
def at_ : UInt8 := 0x40
def openBracket : UInt8 := 0x5B
def closeBracket : UInt8 := 0x5D
def percent : UInt8 := 0x25

def maxLength : Nat := 65534

def maxSchemeLength : Nat := 64

def endsAuthority (b : UInt8) : Bool := b = slash || b = question || b = hash

def isSchemeOctet (b : UInt8) : Bool := Bytes.isAlphanumeric b || Bytes.isOneOf "+-." b

def isAuthorityOctet (b : UInt8) : Bool := Bytes.isAlphanumeric b || Bytes.isOneOf "!$&'()*+,-.:;=@[]_~" b

def isPathOctet (b : UInt8) : Bool :=
  b = 0x21 || b = 0x22 || (0x24 ≤ b && b ≤ 0x3B) || b = 0x3D || (0x40 ≤ b && b ≤ 0x5F) ||
  (0x61 ≤ b && b ≤ 0x7E) || 0x80 ≤ b

def isQueryOctet (b : UInt8) : Bool :=
  b = 0x21 || (0x24 ≤ b && b ≤ 0x3B) || b = 0x3D || (0x3F ≤ b && b ≤ 0x7E) || 0x80 ≤ b

/-- What is known of an authority read so far: colons since the last `@` or `]`, brackets seen, and whether a `%` stands
where it would belong to the host. -/
structure Scan where
  colons : Nat := 0
  opened : Bool := false
  closed : Bool := false
  percent : Bool := false
  deriving DecidableEq, Repr

def Scan.step (s : Scan) (b : UInt8) : Except UriError Scan :=
  if b = colon then if s.colons ≥ 8 then .error .badAuthority else .ok { s with colons := s.colons + 1 }
  else if b = openBracket then
    if s.percent || s.opened then .error .badAuthority else .ok { s with opened := true }
  else if b = closeBracket then
    if !s.opened || s.closed then .error .badAuthority
    else .ok { s with closed := true, colons := 0, percent := false }
  else if b = at_ then .ok { s with colons := 0, percent := false }
  else if b = Uri.percent then .ok { s with percent := true }
  else if isAuthorityOctet b then .ok s
  else .error .badCharacter

def Scan.run : Scan → Bytes → Except UriError Scan
  | s, [] => .ok s
  | s, b :: rest =>
    match s.step b with
    | .ok s => run s rest
    | .error e => .error e

/-- The authority at the head of the octets and what follows it: balanced brackets, at most one colon in the host and
port, nothing percent-encoded there, and something after an `@`. -/
def splitAuthority (s : Bytes) : Except UriError (Bytes × Bytes) :=
  let (authority, rest) := s.span (fun b => !endsAuthority b)
  match Scan.run {} authority with
  | .error e => .error e
  | .ok scan =>
    if scan.opened != scan.closed || scan.colons > 1 || authority.getLast? = some at_ || scan.percent then
      .error .badAuthority
    else .ok (authority, rest)

def isText (s : Bytes) : Bool := s.all (· < 0x80) || (Bytes.toChars? s).isSome

def splitPath (s : Bytes) : Except UriError (Bytes × Option Bytes) :=
  let (path, rest) := s.span (fun b => b != question && b != hash)
  if !path.all isPathOctet then .error .badCharacter
  else
    match rest with
    | [] => if isText path then .ok (path, none) else .error .badCharacter
    | b :: rest =>
      if b = question then
        let query := rest.takeWhile (· != hash)
        if query.all isQueryOctet && isText (path ++ question :: query) then .ok (path, some query)
        else .error .badCharacter
      else if isText path then .ok (path, none) else .error .badCharacter

/-- The scheme in front of `://` and what follows. A row of scheme octets that is not followed so is no scheme. -/
def splitScheme (s : Bytes) : Except UriError (Option Bytes × Bytes) :=
  let lowered := Bytes.lower (s.take 8)
  if lowered.take 7 = Bytes.ofString "http://" then .ok (some (Bytes.ofString "http"), s.drop 7)
  else if lowered = Bytes.ofString "https://" then .ok (some (Bytes.ofString "https"), s.drop 8)
  else if s.length ≤ 3 then .ok (none, s)
  else
    let (name, rest) := s.span isSchemeOctet
    match Bytes.afterBeginning? (Bytes.ofString "://") rest with
    | none => .ok (none, s)
    | some after => if name.length > maxSchemeLength then .error .schemeTooLong else .ok (some name, after)

def parseFull (s : Bytes) : Except UriError Uri := do
  let (scheme, rest) ← splitScheme s
  let (authority, rest) ← splitAuthority rest
  match scheme with
  | none => if rest.isEmpty then .ok ⟨none, authority, [], none⟩ else .error .badFormat
  | some scheme =>
    if authority.isEmpty then .error .badFormat
    else
      let (path, query) ← splitPath rest
      .ok ⟨some scheme, authority, path, query⟩

def parse (s : Bytes) : Except UriError Uri :=
  if s.length > maxLength then .error .tooLong
  else
    match s with
    | [] => .error .empty
    | [b] =>
      if b = slash then .ok ⟨none, [], [slash], none⟩
      else if b = 0x2A then .ok ⟨none, [], [b], none⟩
      else
        match splitAuthority [b] with
        | .error e => .error e
        | .ok (authority, rest) => if rest.isEmpty then .ok ⟨none, authority, [], none⟩ else .error .badCharacter
    | b :: _ =>
      if b = slash then
        match splitPath s with
        | .error e => .error e
        | .ok (path, query) => .ok ⟨none, [], path, query⟩
      else parseFull s

def queryText (u : Uri) : Bytes :=
  match u.query with
  | some q => question :: q
  | none => []

def pathAndQuery? (u : Uri) : Option Bytes :=
  if u.scheme.isSome || u.authority.isEmpty then
    let text := u.rawPath ++ u.queryText
    some (if text.isEmpty then [slash] else text)
  else none

def hasPath (u : Uri) : Bool := u.scheme.isSome || !(u.rawPath ++ u.queryText).isEmpty

def path (u : Uri) : Bytes := if !u.hasPath then [] else if u.rawPath.isEmpty then [slash] else u.rawPath

def schemeText (u : Uri) : Bytes :=
  match u.scheme with
  | some s => s ++ Bytes.ofString "://"
  | none => []

def text (u : Uri) : Bytes := u.schemeText ++ u.authority ++ u.path ++ u.queryText

def afterLast (sep : UInt8) (s : Bytes) : Bytes := (s.reverse.takeWhile (· != sep)).reverse

def host (u : Uri) : Option Bytes :=
  if u.authority.isEmpty then none
  else
    let place := afterLast at_ u.authority
    if place.head? = some openBracket then some (place.takeWhile (· != closeBracket) ++ [closeBracket])
    else some (place.takeWhile (· != colon))

def port (u : Uri) : Option Nat :=
  if u.authority.contains colon then
    let digits := afterLast colon u.authority
    let digits := if digits.head? = some 0x2B then digits.drop 1 else digits
    match Bytes.toNat? digits with
    | some n => if n < 65536 then some n else none
    | none => none
  else none

end Uri

end Turnstile.Http
