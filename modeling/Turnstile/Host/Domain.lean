import Turnstile.Bytes
import Turnstile.Unicode.Folding
import Turnstile.Unicode.Direction
import Turnstile.Unicode.Joining
import Turnstile.Unicode.Canonical
import Turnstile.Host.Punycode

namespace Turnstile.Host.Domain

open Turnstile.Unicode

def dot : Nat := 0x2E

def isForbidden (c : Nat) : Bool :=
  c ≤ 0x20 || c = 0x7F || "%#/:<>?@[\\]^|".toList.any (fun d => d.toNat == c)

def lowerAscii (c : Nat) : Nat := if 0x41 ≤ c && c ≤ 0x5A then c + 0x20 else c

def isAscii (cs : List Nat) : Bool := cs.all (· < 128)

def fold? (c : Nat) : Option (List Nat) :=
  if c < 128 then some [lowerAscii c]
  else if Folding.refused.contains c then none
  else if Folding.ignored.contains c then some []
  else some ((findReplacement? Folding.replaced c).getD [c])

def foldAll? : List Nat → Option (List Nat)
  | [] => some []
  | c :: cs => do
    let head ← fold? c
    let tail ← foldAll? cs
    some (head ++ tail)

def isSettled (c : Nat) : Bool := fold? c == some [c]

def hasClass (c k : Nat) : Bool := Marks.combiningClass c == k

def joinsAhead (c : Nat) : Bool := Joining.onBothSides.contains c || Joining.onTheLeft.contains c

def joinsBehind (c : Nat) : Bool := Joining.onBothSides.contains c || Joining.onTheRight.contains c

def skipTransparent (cs : List Nat) : List Nat := cs.dropWhile Joining.transparent.contains

/-- A joiner follows a sign that suppresses a vowel; a non-joiner may also stand between letters that would join.
`before` holds the characters already passed, nearest first. -/
def joinersOk (before : List Nat) : List Nat → Bool
  | [] => true
  | c :: cs =>
    let afterVirama := before.head?.any (hasClass · Marks.viramaClass)
    let ok :=
      if c = 0x200D then afterVirama
      else if c = 0x200C then
        afterVirama || ((skipTransparent before).head?.any joinsAhead && (skipTransparent cs).head?.any joinsBehind)
      else true
    ok && joinersOk (c :: before) cs

inductive Class where
  | left | right | arabic | arabicNumber | number | neutral | mark | other
  deriving DecidableEq

def classOf (c : Nat) : Class :=
  if Direction.rightToLeft.contains c then .right
  else if Direction.arabicLetter.contains c then .arabic
  else if Direction.arabicNumber.contains c then .arabicNumber
  else if Direction.europeanNumber.contains c then .number
  else if Direction.nonspacingMark.contains c then .mark
  else if Direction.europeanSeparator.contains c || Direction.commonSeparator.contains c ||
      Direction.europeanTerminator.contains c || Direction.otherNeutral.contains c ||
      Direction.boundaryNeutral.contains c then .neutral
  else if Direction.blankOrControl.contains c then .other
  else .left

def isRightward (c : Nat) : Bool := classOf c = .right || classOf c = .arabic || classOf c = .arabicNumber

/-- The rule for labels of names in which some label runs from right to left. -/
def directionOk (label : List Nat) : Bool :=
  let classes := label.map classOf
  let ending := classes.reverse.dropWhile (· = .mark)
  match classes with
  | [] => true
  | first :: _ =>
    if first = .left then
      classes.all (fun k => k = .left || k = .number || k = .neutral || k = .mark) &&
      ending.head?.any (fun k => k = .left || k = .number)
    else if first = .right || first = .arabic then
      classes.all (fun k => k ≠ .left && k ≠ .other) &&
      ending.head?.any (fun k => k = .right || k = .arabic || k = .number || k = .arabicNumber) &&
      !(classes.contains .number && classes.contains .arabicNumber)
    else false

def labelOk (label : List Nat) : Bool :=
  label.all isSettled && Canonical.compose label == label && !label.contains dot &&
  !label.head?.any Marks.all.contains && joinersOk [] label

def punycodeMark : List Nat := "xn--".toList.map Char.toNat

def afterMark? (label : List Nat) : Option (List Nat) :=
  if punycodeMark.isPrefixOf label then some (label.drop 4) else none

def readLabel? (label : List Nat) : Option (List Nat) :=
  match afterMark? label with
  | some code =>
    if isAscii code && !code.isEmpty && code.length ≤ 2000 then
      match Punycode.decode? code with
      | some decoded => if !isAscii decoded && labelOk decoded then some decoded else none
      | none => none
    else none
  | none => if isAscii label || labelOk label then some label else none

def writeLabel? (label : List Nat) : Option (List Nat) :=
  if isAscii label then some label
  else if label.length ≤ 1000 then some (punycodeMark ++ Punycode.encode label) else none

def lower (cs : List Nat) : List Nat := cs.map lowerAscii

/-- A name that needs no tables: ASCII throughout, with no label in Punycode. -/
def isPlain (cs : List Nat) : Bool :=
  isAscii cs && ((lower cs).splitOn dot).all (fun label => (afterMark? label).isNone)

def toBytes (cs : List Nat) : Bytes := cs.map UInt8.ofNat

def toAscii? (cs : List Nat) : Option Bytes :=
  if isPlain cs then
    if cs.any isForbidden then none else some (toBytes (lower cs))
  else do
    let spelled := Canonical.compose (← foldAll? cs)
    let labels ← (spelled.splitOn dot).mapM readLabel?
    if labels.any (·.any isForbidden) then none
    else if labels.any (·.any isRightward) && !labels.all directionOk then none
    else
      let written ← labels.mapM writeLabel?
      some (toBytes (List.intercalate [dot] written))

end Turnstile.Host.Domain
