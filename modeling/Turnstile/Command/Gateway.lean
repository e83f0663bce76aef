import Turnstile.Command.Arguments
import Turnstile.Config.File
import Turnstile.Lifecycle.Startup

namespace Turnstile.Command.Gateway

open Lifecycle

def grammar : Grammar where
  options := [⟨"config", 'c'⟩]
  switches := [⟨"help", 'h'⟩, ⟨"version", 'V'⟩]
  required := ["config"]

def pathVariable : String := "ADMISSION_PROXY_CONFIG"

def secretVariable : String := "PROXY_SHARED_SECRET"

def defaultPath : String := "admission-proxy.toml"

def logDirective (level : String) : String := "admission_proxy=" ++ level ++ ",tower_http=" ++ level

/-- A command that is to run, to show something, or that was misused. -/
inductive Order where
  | usage
  | help
  | version
  | run (path : String)
  deriving DecidableEq, Repr

def order (words : List String) (environment : Option String) : Order :=
  match grammar.read words with
  | .usage => .usage
  | .shown switch => if switch = "version" then .version else .help
  | .complete values _ =>
    let path := (valueOf values "config" environment).getD defaultPath
    if path.isEmpty then .usage else .run path

inductive Failure where
  | config (p : Config.ReadProblem)
  | startup (p : Startup.Problem)
  deriving DecidableEq, Repr

namespace Failure

def name : Failure → String
  | config (.file _) => "Io"
  | config (.form _) => "Parse"
  | config (.rules _) => "Validation"
  | startup (.address _) => "Address"
  | startup (.metrics _) => "Metrics"
  | startup (.server _) => "Server"
  | startup (.listener _) => "Io"

def message (wording : String → String) : Failure → String
  | config p => p.message wording
  | startup p => p.message

def line (f : Failure) : String := "Error: " ++ f.name

end Failure

def start (m : Machine) (file secret : Option Bytes) : Except Failure Startup.Service :=
  match Config.load file secret with
  | .error p => .error (.config p)
  | .ok c => (Startup.run m c).mapError .startup

/-- The end of the command. A service that has started ends when it is told to stop. -/
inductive End where
  | usage
  | shown (text : String)
  | failed (f : Failure)
  | stopped (s : Startup.Service)
  deriving DecidableEq, Repr

def End.status : End → UInt32
  | usage => 2
  | shown _ => 0
  | failed _ => 1
  | stopped _ => 0

def versionText : String := "admission-proxy " ++ version ++ "\n"

def run (m : Machine) (words : List String) (environment : String → Option Bytes) (file : String → Option Bytes) :
    End :=
  match order words ((environment pathVariable).bind Bytes.toString?) with
  | .usage => .usage
  | .help => .shown ""
  | .version => .shown versionText
  | .run path =>
    match start m (file path) (environment secretVariable) with
    | .error f => .failed f
    | .ok s => .stopped s

end Turnstile.Command.Gateway
