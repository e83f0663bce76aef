import Turnstile.Client
import Turnstile.Command.Arguments
import Turnstile.Http.Reason
import Turnstile.Http.Response
import Turnstile.Json.Reader

namespace Turnstile.Command.Operator

open Http

def grammar : Grammar where
  options := [⟨"url", 'u'⟩, ⟨"key", 'k'⟩]
  switches := [⟨"help", 'h'⟩]
  commands := ["status", "queue"]

def keyVariable : String := "ADMISSION_PROXY_ADMIN_KEY"

def defaultUrl : String := "http://localhost:8081"

inductive Order where
  | usage
  | help
  | ask (url key page : String)
  deriving DecidableEq, Repr

def order (words : List String) (environment : Option String) : Order :=
  match grammar.read words with
  | .usage => .usage
  | .shown _ => .help
  | .complete values (some page) =>
    match valueOf values "key" environment with
    | some key => .ask ((valueOf values "url" none).getD defaultUrl) key page
    | none => .usage
  | .complete _ none => .usage

def call? (url key page : String) : Option Client.Call :=
  let token := Bytes.ofString ("Bearer " ++ key)
  if !isHeaderValue token then none
  else (Client.target? (Client.baseOf url ++ "/admin/" ++ page)).map fun u =>
    ⟨.get, (Client.authority u).2, [(Client.authorization, token)], none⟩

/-- What the command leaves behind. -/
structure Report where
  status : UInt32
  output : String := ""
  errors : String := ""
  deriving DecidableEq, Repr

def isSuccess (status : Nat) : Bool := 200 ≤ status && status < 300

/-- A document is printed with its keys in order; any other answer than a success is reported, which is no failure of
the command. -/
def report (a : Response) : Report :=
  if !isSuccess a.status then
    ⟨0, "", "Error: Admin API returned status " ++ statusLine a.status ++ "\nResponse: " ++
      (Bytes.toString? a.body).getD "" ++ "\n"⟩
  else
    match (Bytes.toChars? a.body).bind Json.Reader.read? with
    | some d => ⟨0, String.ofList (Json.Writer.pretty d) ++ "\n", ""⟩
    | none => ⟨1, "", ""⟩

def run (words : List String) (environment : Option String) (answer : Client.Call → Option Response) : Report :=
  match order words environment with
  | .usage => ⟨2, "", ""⟩
  | .help => ⟨0, "", ""⟩
  | .ask url key page =>
    match (call? url key page).bind answer with
    | some a => report a
    | none => ⟨1, "", ""⟩

end Turnstile.Command.Operator
