namespace Turnstile.Command

/-- A long name and its letter. -/
structure Flag where
  name : String
  letter : Char
  deriving DecidableEq, Repr

/-- `required` are the options whose value must not be empty. -/
structure Grammar where
  options : List Flag
  switches : List Flag
  commands : List String := []
  required : List String := []
  deriving DecidableEq, Repr

inductive Reading where
  | usage
  | shown (switch : String)
  | complete (values : List (String × String)) (command : Option String)
  deriving DecidableEq, Repr

namespace Grammar

def optionNamed (g : Grammar) (name : String) : Option Flag := g.options.find? (·.name = name)

def optionLettered (g : Grammar) (letter : Char) : Option Flag := g.options.find? (·.letter = letter)

def switchNamed (g : Grammar) (name : String) : Option Flag := g.switches.find? (·.name = name)

def switchLettered (g : Grammar) (letter : Char) : Option Flag := g.switches.find? (·.letter = letter)

def record? (g : Grammar) (values : List (String × String)) (name value : String) : Option (List (String × String)) :=
  if values.any (·.1 = name) || (g.required.contains name && value.isEmpty) then none
  else some (values ++ [(name, value)])

/-- What one word that begins with a dash comes to. -/
inductive Dashed where
  | unknown
  | switch (name : String)
  | pending (name : String)
  | valued (name value : String)
  deriving DecidableEq, Repr

def long (g : Grammar) (word : List Char) : Dashed :=
  let name := String.ofList (word.takeWhile (· != '='))
  match g.optionNamed name, g.switchNamed name, word.dropWhile (· != '=') with
  | some o, _, [] => .pending o.name
  | some o, _, _ :: value => .valued o.name (String.ofList value)
  | none, some s, [] => .switch s.name
  | _, _, _ => .unknown

def short (g : Grammar) (word : List Char) : Dashed :=
  match word with
  | [] => .unknown
  | c :: rest =>
    match g.optionLettered c, g.switchLettered c, rest with
    | some o, _, [] => .pending o.name
    | some o, _, '=' :: value => .valued o.name (String.ofList value)
    | some o, _, value => .valued o.name (String.ofList value)
    | none, some s, _ => .switch s.name
    | none, none, _ => .unknown

def dashed? (g : Grammar) (word : String) : Option Dashed :=
  match word.toList with
  | '-' :: '-' :: rest => some (g.long rest)
  | '-' :: c :: rest => some (g.short (c :: rest))
  | _ => none

def afterCommand (command : String) (values : List (String × String)) : List String → Reading
  | [] => .complete values (some command)
  | word :: rest =>
    if word = "--" then if rest.isEmpty then .complete values (some command) else .usage
    else if word = "--help" || word.startsWith "-h" then .shown "help"
    else .usage

def afterHelp (g : Grammar) : List String → Reading
  | [] => .shown "help"
  | [word] => if g.commands.contains word || word = "help" then .shown "help" else .usage
  | _ => .usage

def isHelp (g : Grammar) (word : String) : Bool := !g.commands.isEmpty && word = "help"

def readFrom (g : Grammar) (waiting : Option String) (values : List (String × String)) : List String → Reading
  | [] => if waiting.isSome then .usage else .complete values none
  | word :: rest =>
    if waiting.isNone && g.commands.contains word then afterCommand word values rest
    else if waiting.isNone && g.isHelp word then g.afterHelp rest
    else if word = "--" then if waiting.isNone && rest.isEmpty then .complete values none else .usage
    else
      match waiting, g.dashed? word with
      | some name, none =>
        match g.record? values name word with
        | some values => readFrom g none values rest
        | none => .usage
      | some _, some _ => .usage
      | none, none => .usage
      | none, some .unknown => .usage
      | none, some (.switch name) => .shown name
      | none, some (.pending name) => readFrom g (some name) values rest
      | none, some (.valued name value) =>
        match g.record? values name value with
        | some values => readFrom g none values rest
        | none => .usage

def read (g : Grammar) (words : List String) : Reading := g.readFrom none [] words

end Grammar

def valueOf (values : List (String × String)) (name : String) (environment : Option String) : Option String :=
  ((values.find? (·.1 = name)).map (·.2)).or environment

end Turnstile.Command
