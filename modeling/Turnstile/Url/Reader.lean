import Turnstile.Url.Basic

namespace Turnstile.Url.Reader

def commonPorts : List (String × Nat) := [("http", 80), ("https", 443), ("ws", 80), ("wss", 443), ("ftp", 21)]

def defaultPort? (scheme : Bytes) : Option Nat := (commonPorts.find? (Bytes.ofString ·.1 = scheme)).map (·.2)

def isCommon (scheme : Bytes) : Bool := (defaultPort? scheme).isSome

def isBlankOrControl (c : Char) : Bool := c.toNat ≤ 0x20

def trim (cs : List Char) : List Char :=
  ((cs.dropWhile isBlankOrControl).reverse.dropWhile isBlankOrControl).reverse

def isTabOrLineEnd (c : Char) : Bool := c = '\t' || c = '\n' || c = '\r'

def isSchemeChar (c : Char) : Bool := c.isAlphanum || c = '+' || c = '-' || c = '.'

def scheme? (cs : List Char) : Option (Bytes × List Char) :=
  let name := cs.takeWhile isSchemeChar
  match name, cs.dropWhile isSchemeChar with
  | c :: _, ':' :: rest => if c.isAlpha then some (Bytes.lower (Bytes.ofChars name), rest) else none
  | _, _ => none

def isSlash (common : Bool) (c : Char) : Bool := c = '/' || (common && c = '\\')

def endsAuthority (common : Bool) (c : Char) : Bool := isSlash common c || c = '?' || c = '#'

def splitUserinfo (authority : List Char) : Option (List Char × List Char) :=
  let after := (authority.reverse.takeWhile (· != '@')).reverse
  if after.length < authority.length then some (authority.take (authority.length - after.length - 1), after) else none

/-- Name and password, escaped; an empty password is dropped with its colon. -/
def readUserinfo (cs : List Char) : Bytes × Option Bytes :=
  let name := Percent.encode Percent.inUserinfo (cs.takeWhile (· != ':'))
  match cs.dropWhile (· != ':') with
  | _ :: [] => (name, none)
  | _ :: password => (name, some (Percent.encode Percent.inUserinfo password))
  | [] => (name, none)

def splitHost (inside : Bool) : List Char → List Char × List Char
  | [] => ([], [])
  | c :: cs =>
    if c = ':' && !inside then ([], c :: cs)
    else
      let (host, rest) := splitHost (if c = '[' then true else if c = ']' then false else inside) cs
      (c :: host, rest)

def readPort (scheme : Bytes) (cs : List Char) : Except Problem (Option Nat) :=
  let digits := cs.takeWhile Char.isDigit
  let n := digits.foldl (fun n c => n * 10 + (c.toNat - 48)) 0
  if digits.length < cs.length || n > 65535 then .error .port
  else if digits.isEmpty || defaultPort? scheme = some n then .ok none
  else .ok (some n)

def splitPort (cs : List Char) : List Char × List Char := cs.span (· != '\\')

def isSingleDot (segment : Bytes) : Bool :=
  [".", "%2e"].any (fun s => Bytes.ofString s = Bytes.lower segment)

def isDoubleDot (segment : Bytes) : Bool :=
  ["..", ".%2e", "%2e.", "%2e%2e"].any (fun s => Bytes.ofString s = Bytes.lower segment)

/-- Resolves dot segments; `done` holds the segments kept so far, backwards. A dot segment at the end leaves an empty
segment. -/
def resolve (done : List Bytes) : List Bytes → List Bytes
  | [] => done.reverse
  | s :: rest =>
    let last := rest.isEmpty
    if isDoubleDot s then resolve (if last then [] :: done.drop 1 else done.drop 1) rest
    else if isSingleDot s then resolve (if last then [] :: done else done) rest
    else resolve (s :: done) rest

def slash : UInt8 := 0x2F

def segments (common : Bool) (cs : List Char) : List (List Char) :=
  (if common then cs.map (fun c => if c = '\\' then '/' else c) else cs).splitOn '/'

def readPath (common : Bool) (cs : List Char) : Bytes :=
  let kept := resolve [] ((segments common cs).map (Percent.encode Percent.inPath))
  slash :: List.intercalate [slash] kept

def splitEnd (cs : List Char) : List Char × Option (List Char) × Option (List Char) :=
  let (front, rest) := cs.span (· != '#')
  let fragment :=
    match rest with
    | _ :: f => some f
    | [] => none
  let (path, rest) := front.span (· != '?')
  let query :=
    match rest with
    | _ :: q => some q
    | [] => none
  (path, query, fragment)

def finish (common : Bool) (u : Url) (query fragment : Option (List Char)) : Url :=
  { u with
    query := query.map (Percent.encode (if common then Percent.inCommonQuery else Percent.inQuery))
    fragment := fragment.map (Percent.encode Percent.inFragment) }

def pathAfterHost (common : Bool) (cs : List Char) : Bytes :=
  match cs with
  | [] => if common then [slash] else []
  | c :: rest => if isSlash common c then readPath common rest else readPath common cs

def isEmptyHost : Host → Bool
  | .domain name => name.isEmpty
  | _ => false

def readHost (common : Bool) (cs : List Char) : Except Problem Host :=
  if !common then Host.parseOpaque cs else if cs.isEmpty then .error .emptyHost else Host.parse cs

/-- The user information of an authority, and its host and port. These may be missing after an `@` at the end alone. -/
def readInfo (authority : List Char) (atEnd : Bool) : Except Problem (Bytes × Option Bytes × List Char) :=
  match splitUserinfo authority with
  | none => .ok ([], none, authority)
  | some (info, place) =>
    if info.isEmpty then if place.isEmpty && !atEnd then .error .emptyHost else .ok ([], none, place)
    else
      let (name, password) := readUserinfo info
      .ok (name, password, place)

def readAfterHost (scheme : Bytes) (host : Host) : List Char → Except Problem (Option Nat × List Char)
  | [] => .ok (none, [])
  | _ :: digits =>
    if isEmptyHost host then .error .emptyHost
    else
      let (digits, tail) := splitPort digits
      (readPort scheme digits).map (·, tail)

def readAuthority (scheme : Bytes) (cs : List Char) : Except Problem Url := do
  let common := isCommon scheme
  let (authority, rest) := cs.span (fun c => !endsAuthority common c)
  let (username, password, place) ← readInfo authority rest.isEmpty
  let (hostText, afterHost) := splitHost false place
  let host ← readHost common hostText
  let (port, tail) ← readAfterHost scheme host afterHost
  if isEmptyHost host && (common || !username.isEmpty || password.isSome) then .error .emptyHost
  else
    let (path, query, fragment) := splitEnd (tail ++ rest)
    .ok (finish common
      { scheme, username, password, port
        host := if isEmptyHost host then none else some host
        path := pathAfterHost common path } query fragment)

def isDriveLetter (cs : List Char) : Bool :=
  match cs with
  | [c, d] => c.isAlpha && (d = ':' || d = '|')
  | _ => false

/-- The host of a file follows exactly two slashes, an empty one or `localhost` being none. The rest is the path. -/
def readFileHost (front : List Char) : Except Problem (Option Host × List Char) :=
  let afterSlashes? : Option (List Char) :=
    match front with
    | a :: b :: rest => if isSlash true a && isSlash true b then some rest else none
    | _ => none
  match afterSlashes? with
  | none => .ok (none, front)
  | some rest =>
    let (name, path) := rest.span (fun c => !isSlash true c)
    if name.isEmpty then .ok (none, path)
    else if isDriveLetter name then .ok (none, rest)
    else do
      let host ← Host.parse name
      .ok (if host = .domain (Bytes.ofString "localhost") then none else some host, path)

def readFile (scheme : Bytes) (cs : List Char) : Except Problem Url := do
  let (front, query, fragment) := splitEnd cs
  let (host, path) ← readFileHost front
  let path := (readPath true path).dropWhile (· = slash)
  .ok (finish true { scheme, host, path := slash :: path } query fragment)

def readBare (scheme : Bytes) (cs : List Char) : Url :=
  let (path, query, fragment) := splitEnd cs
  let path :=
    match path with
    | '/' :: rest => readPath false rest
    | _ => Percent.encode Percent.isControl path
  finish false { scheme, path } query fragment

def read (cs : List Char) : Except Problem Url :=
  let cs := (trim cs).filter (fun c => !isTabOrLineEnd c)
  match scheme? cs with
  | none => .error .relative
  | some (scheme, rest) =>
    if scheme = Bytes.ofString "file" then readFile scheme rest
    else if isCommon scheme then readAuthority scheme (rest.dropWhile (isSlash true))
    else
      match rest with
      | '/' :: '/' :: rest => readAuthority scheme rest
      | _ => .ok (readBare scheme rest)

end Turnstile.Url.Reader

namespace Turnstile.Url

def parse (s : String) : Except Problem Url := Reader.read s.toList

end Turnstile.Url
