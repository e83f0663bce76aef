import Turnstile.Toml.Lexeme
import Turnstile.Toml.Tree

namespace Turnstile.Toml

open Lexeme

mutual

/-- A value; `depth` counts how many more arrays and inline tables may be opened. -/
def value? : (fuel depth : Nat) → Reader Document
  | 0, _, _ => none
  | fuel + 1, depth, cs =>
    match cs with
    | '"' :: _ => (string? cs).map fun (s, rest) => (.text s, rest)
    | '\'' :: _ => (string? cs).map fun (s, rest) => (.text s, rest)
    | '[' :: rest => if depth = 0 then none else items? fuel (depth - 1) [] rest
    | '\x7b' :: rest =>
      if depth = 0 then none
      else
        match skipBlanks rest with
        | '\x7d' :: rest => some (.table [], rest)
        | rest => entries? fuel (depth - 1) {} rest
    | 't' :: 'r' :: 'u' :: 'e' :: rest => some (.bool true, rest)
    | 'f' :: 'a' :: 'l' :: 's' :: 'e' :: rest => some (.bool false, rest)
    | 'i' :: _ => float? cs
    | 'n' :: _ => float? cs
    | c :: _ => if c.isDigit || c = '+' || c = '-' then number? cs else none
    | [] => none

def items? : (fuel depth : Nat) → List Document → Reader Document
  | 0, _, _, _ => none
  | fuel + 1, depth, done, cs =>
    match skipLayout (cs.length + 1) cs with
    | ']' :: rest => some (.list done.reverse, rest)
    | cs =>
      match value? fuel depth cs with
      | none => none
      | some (d, rest) =>
        match skipLayout (rest.length + 1) rest with
        | ',' :: rest => items? fuel depth (d :: done) rest
        | ']' :: rest => some (.list (d :: done).reverse, rest)
        | _ => none

/-- The entries of an inline table, on one line and without a comma after the last. -/
def entries? : (fuel depth : Nat) → Table → Reader Document
  | 0, _, _, _ => none
  | fuel + 1, depth, t, cs =>
    match key? cs with
    | none => none
    | some (path, rest) =>
      match rest with
      | '=' :: rest =>
        match value? fuel depth (skipBlanks rest) with
        | none => none
        | some (d, rest) =>
          match addEntry path d t with
          | none => none
          | some t =>
            match skipBlanks rest with
            | ',' :: rest => entries? fuel depth t rest
            | '\x7d' :: rest => some (t.document, rest)
            | _ => none
      | _ => none

end

/-- A header with one or two brackets on each side, up to the end of its line. -/
def header? (p : Progress) (cs : List Char) : Option (Progress × List Char) := do
  let root ← p.close
  match cs with
  | '[' :: '[' :: rest =>
    let (path, rest) ← key? rest
    match rest with
    | ']' :: ']' :: rest =>
      let rest ← finishLine? rest
      let p ← Progress.openRow path root
      some (p, rest)
    | _ => none
  | '[' :: rest =>
    let (path, rest) ← key? rest
    match rest with
    | ']' :: rest =>
      let rest ← finishLine? rest
      let p ← Progress.openTable path root
      some (p, rest)
    | _ => none
  | _ => none

def entry? (p : Progress) (cs : List Char) : Option (Progress × List Char) := do
  let (path, rest) ← key? cs
  match rest with
  | '=' :: rest =>
    let (d, rest) ← value? (rest.length + 1) (depthLimit - 1) (skipBlanks rest)
    let rest ← finishLine? rest
    let current ← addEntry path d p.current
    some ({ p with current }, rest)
  | _ => none

def lines? : Nat → Progress → List Char → Option Progress
  | 0, _, _ => none
  | fuel + 1, p, cs =>
    match skipBlanks cs with
    | [] => some p
    | '[' :: rest =>
      match header? p ('[' :: rest) with
      | some (p, rest) => lines? fuel p rest
      | none => none
    | c :: rest =>
      if c = '#' || c = '\n' || c = '\r' then
        match finishLine? (c :: rest) with
        | some rest => lines? fuel p rest
        | none => none
      else
        match entry? p (c :: rest) with
        | some (p, rest) => lines? fuel p rest
        | none => none

def dropByteOrderMark : List Char → List Char
  | '\ufeff' :: rest => rest
  | cs => cs

def read? (s : String) : Option Document := do
  let cs := dropByteOrderMark s.toList
  let p ← lines? (cs.length + 1) {} cs
  let root ← p.close
  some root.document

end Turnstile.Toml
