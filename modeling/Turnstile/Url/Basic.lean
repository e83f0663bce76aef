import Turnstile.Url.Host

namespace Turnstile

/-- `path` is written with its leading slash, if it has one. A host of none is a URL without an authority. -/
structure Url where
  scheme : Bytes
  username : Bytes := []
  password : Option Bytes := none
  host : Option Url.Host := none
  port : Option Nat := none
  path : Bytes := []
  query : Option Bytes := none
  fragment : Option Bytes := none
  deriving DecidableEq, Repr

namespace Url

def userinfo (u : Url) : Bytes :=
  match u.password with
  | some p => u.username ++ 0x3A :: p ++ [0x40]
  | none => if u.username.isEmpty then [] else u.username ++ [0x40]

def portText (u : Url) : Bytes :=
  match u.port with
  | some p => 0x3A :: Bytes.ofNat p
  | none => []

def hostText (u : Url) : Bytes :=
  match u.host with
  | some h => h.text
  | none => []

def authority (u : Url) : Bytes := u.userinfo ++ u.hostText ++ u.portText

def queryText (u : Url) : Bytes :=
  match u.query with
  | some q => 0x3F :: q
  | none => []

def fragmentText (u : Url) : Bytes :=
  match u.fragment with
  | some f => 0x23 :: f
  | none => []

def authorityText (u : Url) : Bytes := if u.host.isSome then Bytes.ofString "//" ++ u.authority else []

def text (u : Url) : Bytes :=
  u.scheme ++ 0x3A :: u.authorityText ++ u.path ++ u.queryText ++ u.fragmentText

end Url

end Turnstile
