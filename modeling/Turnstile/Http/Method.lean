import Turnstile.Http.Header

namespace Turnstile.Http

structure Method where
  octets : Bytes
  deriving DecidableEq, Repr

namespace Method

def parse? (s : Bytes) : Option Method := if !s.isEmpty && s.all isToken then some ⟨s⟩ else none

def get : Method := ⟨Bytes.ofString "GET"⟩

def head : Method := ⟨Bytes.ofString "HEAD"⟩

def post : Method := ⟨Bytes.ofString "POST"⟩

def text (m : Method) : String := String.ofList (m.octets.map fun b => Char.ofNat b.toNat)

end Method

end Turnstile.Http
