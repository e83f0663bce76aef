import Turnstile.Http.Method
import Turnstile.Http.Uri
import Turnstile.Origin

namespace Turnstile

structure Job where
  target : Http.Uri
  method : Http.Method
  headers : Http.Headers
  body : Option Bytes
  deriving DecidableEq, Repr

namespace Job

inductive Problem where
  | escapesBase
  | target (e : Http.UriError)
  deriving DecidableEq, Repr

def Problem.message : Problem → String
  | escapesBase => "dot segment would leave the origin base path"
  | target e => "invalid target: " ++ e.message

def plainDots : Bytes → Bytes
  | a :: b :: c :: rest =>
    if a = 0x25 && b = 0x32 && c = 0x65 then 0x2E :: plainDots rest else a :: plainDots (b :: c :: rest)
  | s => s

def isDotSegment (segment : Bytes) : Bool :=
  let plain := plainDots (Bytes.lower segment)
  plain = [0x2E] || plain = [0x2E, 0x2E]

/-- Whether a segment of the path, up to the first question mark, is a dot segment. -/
def hasDotSegment (pathAndQuery : Bytes) : Bool :=
  ((pathAndQuery.takeWhile (· != 0x3F)).splitOn 0x2F).any isDotSegment

def hostName : Http.HeaderName := Http.HeaderName.known "host"

/-- The job for a path and query; the caller's `host` is left out, and an empty body is none. -/
def forPath (origin : Url) (method : Http.Method) (pathAndQuery : Bytes) (headers : Http.Headers) (body : Bytes) :
    Except Problem Job :=
  if Origin.hasBasePath origin && hasDotSegment pathAndQuery then .error .escapesBase
  else
    match Http.Uri.parse (Origin.base origin ++ pathAndQuery) with
    | .error e => .error (.target e)
    | .ok target => .ok ⟨target, method, headers.remove hostName, if body.isEmpty then none else some body⟩

def forTarget (origin : Url) (method : Http.Method) (uri : Http.Uri) (headers : Http.Headers) (body : Bytes) :
    Except Problem Job :=
  forPath origin method (uri.pathAndQuery?.getD [0x2F]) headers body

end Job

end Turnstile
