namespace Turnstile

structure Duration where
  seconds : Nat
  nanoseconds : Nat
  deriving DecidableEq, Repr

namespace Duration

def of (seconds nanoseconds : Nat) : Duration :=
  ⟨seconds + nanoseconds / 1000000000, nanoseconds % 1000000000⟩

/-- The digits of `n` in a field of `width`, without the zeros at the end. -/
def decimals (width n : Nat) : String :=
  let digits := Nat.toDigits 10 n
  let field := List.replicate (width - digits.length) '0' ++ digits
  String.ofList (field.reverse.dropWhile (· = '0')).reverse

def withUnit (whole : Nat) (width rest : Nat) (unit : String) : String :=
  if rest = 0 then toString whole ++ unit else toString whole ++ "." ++ decimals width rest ++ unit

def text (d : Duration) : String :=
  if d.seconds > 0 then withUnit d.seconds 9 d.nanoseconds "s"
  else if d.nanoseconds ≥ 1000000 then withUnit (d.nanoseconds / 1000000) 6 (d.nanoseconds % 1000000) "ms"
  else if d.nanoseconds ≥ 1000 then withUnit (d.nanoseconds / 1000) 3 (d.nanoseconds % 1000) "µs"
  else withUnit d.nanoseconds 1 0 "ns"

end Duration

end Turnstile
