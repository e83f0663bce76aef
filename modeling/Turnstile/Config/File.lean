import Turnstile.Config.Document
import Turnstile.Config.Validation
import Turnstile.Toml.Reader

namespace Turnstile.Config

inductive FileProblem where
  | notFound
  | notText
  deriving DecidableEq, Repr

def FileProblem.message : FileProblem → String
  | notFound => "No such file or directory (os error 2)"
  | notText => "stream did not contain valid UTF-8"

/-- What is wrong with the form of a text is a matter of the text alone. -/
inductive ReadProblem where
  | file (p : FileProblem)
  | form (text : String)
  | rules (ps : List Problem)
  deriving DecidableEq, Repr

def ReadProblem.message (wording : String → String) : ReadProblem → String
  | file p => "IO error: " ++ p.message
  | form text => "Parse error: " ++ wording text
  | rules ps => "Validation failed: " ++ String.intercalate ", " (ps.map Problem.message)

def withSecret (secret : Option String) (c : Config) : Config :=
  match secret with
  | some s => if s.isEmpty then c else { c with auth := { c.auth with secret := some s } }
  | none => c

def ofText? (text : String) : Option Config := (Toml.read? text).bind (decode? .toml)

def read (text : String) (secret : Option String) : Except ReadProblem Config :=
  match ofText? text with
  | none => .error (.form text)
  | some c =>
    let c := c.withSecret secret
    if c.problems.isEmpty then .ok c else .error (.rules c.problems)

def load (file secret : Option Bytes) : Except ReadProblem Config :=
  match file with
  | none => .error (.file .notFound)
  | some octets =>
    match Bytes.toString? octets with
    | none => .error (.file .notText)
    | some text => read text (secret.bind Bytes.toString?)

end Turnstile.Config
