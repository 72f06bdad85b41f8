/-!
# Durations in words

A duration of whole milliseconds is written in seconds with as many decimals as it needs once it
reaches a second, and in whole milliseconds below that.
-/

set_option autoImplicit false

namespace ThrowawayServer.Text

/-- The digits of a number with zeros before them up to a width. -/
def paddedDigits (width n : Nat) : List Char :=
  let digits := Nat.toDigits 10 n
  List.replicate (width - digits.length) '0' ++ digits

/-- A duration of `ms` milliseconds. -/
def duration (ms : Nat) : String :=
  if ms = 0 then "0ns"
  else if ms < 1000 then s!"{ms}ms"
  else
    let decimals := ((paddedDigits 3 (ms % 1000)).reverse.dropWhile (· = '0')).reverse
    if decimals.isEmpty then s!"{ms / 1000}s"
    else s!"{ms / 1000}." ++ String.ofList decimals ++ "s"

end ThrowawayServer.Text
