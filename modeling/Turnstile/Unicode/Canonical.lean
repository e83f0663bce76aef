import Turnstile.Unicode.Marks
import Turnstile.Unicode.Composition

namespace Turnstile.Unicode.Canonical

open Marks (combiningClass)

def hangulBase : Nat := 0xAC00
def leadBase : Nat := 0x1100
def vowelBase : Nat := 0x1161
def tailBase : Nat := 0x11A7

def parts? (c : Nat) : Option (Nat × Nat) :=
  let table := Composition.table
  (search (·.1) (·.1) table c (table.size + 1) 0 table.size).map (·.2)

def decomposeHangul? (c : Nat) : Option (List Nat) :=
  if hangulBase ≤ c && c < hangulBase + 11172 then
    let s := c - hangulBase
    let lead := leadBase + s / 588
    let vowel := vowelBase + s % 588 / 28
    if s % 28 = 0 then some [lead, vowel] else some [lead, vowel, tailBase + s % 28]
  else none

def decompose : Nat → Nat → List Nat
  | 0, c => [c]
  | fuel + 1, c =>
    match decomposeHangul? c with
    | some cs => cs
    | none =>
      match parts? c with
      | some (a, b) => decompose fuel a ++ [b]
      | none => [c]

def sortMarks (marks : List Nat) : List Nat := marks.mergeSort (fun a b => combiningClass a ≤ combiningClass b)

/-- Sorts each row of neighbouring marks; `marks` is the row read last, backwards. -/
def reorder (marks : List Nat) : List Nat → List Nat
  | [] => sortMarks marks.reverse
  | c :: cs =>
    if combiningClass c = 0 then sortMarks marks.reverse ++ c :: reorder [] cs else reorder (c :: marks) cs

def joinHangul? (a b : Nat) : Option Nat :=
  if leadBase ≤ a && a < leadBase + 19 && vowelBase ≤ b && b < vowelBase + 21 then
    some (hangulBase + ((a - leadBase) * 21 + (b - vowelBase)) * 28)
  else if hangulBase ≤ a && a < hangulBase + 11172 && (a - hangulBase) % 28 = 0 && tailBase < b && b < tailBase + 28 then
    some (a + (b - tailBase))
  else none

def join? (a b : Nat) : Option Nat :=
  match joinHangul? a b with
  | some c => some c
  | none => (Composition.table.find? (fun row => row.2.1 == a && row.2.2 == b)).map (·.1)

/-- Joins marks to the last starter; `between` holds the marks that stayed, backwards, and `last` the class of the
nearest of them. -/
def joinMarks (starter : Nat) (between : List Nat) (last : Nat) : List Nat → List Nat
  | [] => starter :: between.reverse
  | c :: cs =>
    let k := combiningClass c
    let blocked := !between.isEmpty && (last ≥ k || last = 0)
    match (if blocked then none else join? starter c) with
    | some d => joinMarks d between last cs
    | none =>
      if k = 0 then starter :: between.reverse ++ joinMarks c [] 0 cs
      else joinMarks starter (c :: between) k cs

def joinAll : List Nat → List Nat
  | [] => []
  | c :: cs => if combiningClass c = 0 then joinMarks c [] 0 cs else c :: joinAll cs

def compose (cs : List Nat) : List Nat := joinAll (reorder [] (cs.flatMap (decompose 8)))

end Turnstile.Unicode.Canonical
