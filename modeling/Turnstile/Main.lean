import Turnstile.Command.Gateway

open Turnstile

def Turnstile.Command.readBytes? (path : String) : IO (Option Bytes) := do
  try
    return some (← IO.FS.readBinFile path).toList
  catch _ => return none

def main (words : List String) : IO UInt32 := do
  let path? ← IO.getEnv Command.Gateway.pathVariable
  let secret? ← IO.getEnv Command.Gateway.secretVariable
  let environment (name : String) : Option Bytes :=
    (if name = Command.Gateway.pathVariable then path? else secret?).map Bytes.ofString
  let file ←
    match Command.Gateway.order words path? with
    | .run path => Command.readBytes? path
    | _ => pure none
  let ended := Command.Gateway.run .isolated words environment fun _ => file
  match ended with
  | .shown text => IO.print text
  | .failed f => IO.eprintln (f.line ++ ": " ++ f.message fun _ => "not a configuration")
  | _ => pure ()
  return ended.status
