import Turnstile.Document
import Turnstile.Http.Request
import Turnstile.Json.Writer
import Turnstile.Text.Base64
import Turnstile.Url.Reader

namespace Turnstile

structure Client where
  gateway : String
  secret : String
  header : String := "x-proxy-secret"
  deriving DecidableEq, Repr

namespace Client

open Http

def baseOf (url : String) : String := String.ofList (url.toList.reverse.dropWhile (· = '/')).reverse

/-- What goes out for a call. -/
structure Call where
  method : Method
  url : Url
  headers : Headers
  body : Option Bytes
  deriving DecidableEq, Repr

def authorization : HeaderName := HeaderName.known "authorization"

def contentType : HeaderName := HeaderName.known "content-type"

def isText (s : Bytes) : Bool := (Bytes.toChars? s).isSome

def basicToken (name : Bytes) (password : Option Bytes) : Bytes :=
  Bytes.ofString "Basic " ++ Text.Base64.encode (name ++ 0x3A :: password.getD [])

/-- Name and password of a URL, unescaped. A name that is not text hides both, a password that is not text itself. -/
def credentials? (u : Url) : Option (Bytes × Option Bytes) :=
  let name := Url.Percent.decode u.username
  let password := (u.password.map Url.Percent.decode).filter isText
  if !isText name || (name.isEmpty && password.isNone) then none else some (name, password)

def withoutUserinfo (u : Url) : Url := { u with username := [], password := none }

def authority (u : Url) : Headers × Url :=
  match credentials? u with
  | some (name, password) => ([(authorization, basicToken name password)], withoutUserinfo u)
  | none => ([], u)

def secretField? (c : Client) : Option (HeaderName × Bytes) :=
  match HeaderName.parse? (Bytes.ofString c.header) with
  | some name => if isHeaderValue (Bytes.ofString c.secret) then some (name, Bytes.ofString c.secret) else none
  | none => none

def target? (url : String) : Option Url :=
  match Url.parse url with
  | .ok u => if u.host.isSome then some u else none
  | .error _ => none

def withDocument (headers : Headers) (d : Document) : Headers × Option Bytes :=
  (headers.putIfAbsent contentType (Bytes.ofString "application/json"), some (Bytes.ofChars (Json.Writer.compact d)))

def call? (c : Client) (method : Method) (path : String) (content : Option Document) : Option Call := do
  let u ← target? (baseOf c.gateway ++ path)
  let field ← c.secretField?
  let (credentials, url) := authority u
  let headers := credentials ++ [field]
  let (headers, body) :=
    match content with
    | some d => withDocument headers d
    | none => (headers, none)
  some ⟨method, url, headers, body⟩

def isBackpressure (status : Nat) : Bool := status = 503

end Client

end Turnstile
