import Turnstile.Url.Reader

namespace Turnstile.Origin

inductive Problem where
  | missing
  | url (p : Url.Problem)
  | scheme (name : Bytes)
  | noHost
  | queryOrFragment
  deriving DecidableEq, Repr

def asciiText (s : Bytes) : String := String.ofList (s.map fun b => Char.ofNat b.toNat)

def Problem.reason : Problem → String
  | missing => "required"
  | url p => p.message
  | scheme name => "unsupported scheme '" ++ asciiText name ++ "'"
  | noHost => "missing host"
  | queryOrFragment => "query and fragment are not allowed"

def Problem.message : Problem → String
  | missing => "upstream.origin is required"
  | p => "upstream.origin: " ++ p.reason

def isHttp (scheme : Bytes) : Bool := scheme = Bytes.ofString "http" || scheme = Bytes.ofString "https"

def isBlank (c : Char) : Bool :=
  let n := c.toNat
  (0x9 ≤ n && n ≤ 0xD) || n = 0x20 || n = 0x85 || n = 0xA0 || n = 0x1680 || (0x2000 ≤ n && n ≤ 0x200A) ||
  n = 0x2028 || n = 0x2029 || n = 0x202F || n = 0x205F || n = 0x3000

def parse (s : String) : Except Problem Url :=
  if s.toList.all isBlank then .error .missing
  else
    match Url.parse s with
    | .error p => .error (.url p)
    | .ok u =>
      if !isHttp u.scheme then .error (.scheme u.scheme)
      else if u.host.isNone then .error .noHost
      else if u.query.isSome || u.fragment.isSome then .error .queryOrFragment
      else .ok u

/-- The origin without the slashes at its end, ready to be followed by a path. -/
def base (u : Url) : Bytes := Bytes.dropEnd (· = 0x2F) u.text

def hasBasePath (u : Url) : Bool := u.path != [0x2F]

end Turnstile.Origin
