/-!
# Durations

A duration is a number of whole seconds and of nanoseconds below one second.  The seconds fit
into a word of 64 bits.
-/

set_option autoImplicit false

namespace LintRun

/-- The nanoseconds of one second. -/
def nanosPerSecond : Nat := 1_000_000_000

/-- A length of time. -/
structure Duration where
  seconds : Nat
  nanos : Nat
  seconds_lt : seconds < UInt64.size := by decide
  nanos_lt : nanos < nanosPerSecond := by decide
deriving DecidableEq

namespace Duration

/-- No time at all. -/
def zero : Duration := { seconds := 0, nanos := 0 }

instance : Inhabited Duration := ⟨zero⟩

/-- Whether a duration is no time at all. -/
def isZero (d : Duration) : Bool :=
  d.seconds == 0 && d.nanos == 0

/-- The whole duration in nanoseconds. -/
def totalNanos (d : Duration) : Nat :=
  d.seconds * nanosPerSecond + d.nanos

/-- The duration of a number of nanoseconds, if its seconds fit. -/
def ofNanos? (n : Nat) : Option Duration :=
  if h : n / nanosPerSecond < UInt64.size then
    some ⟨n / nanosPerSecond, n % nanosPerSecond, h, Nat.mod_lt _ (by decide)⟩
  else
    none

/-- The duration of a number of milliseconds, if its seconds fit. -/
def ofMillis? (n : Nat) : Option Duration :=
  ofNanos? (n * 1_000_000)

/-- The digits after the point for a part of `10 ^ width`, without zeros at the end. -/
def fractionDigits (width part : Nat) : List Char :=
  let digits := Nat.toDigits 10 part
  let padded := List.replicate (width - digits.length) '0' ++ digits
  (padded.reverse.dropWhile (· == '0')).reverse

/-- A number with `width` decimal places, without zeros at the end. -/
def decimalText (width whole part : Nat) : String :=
  if part = 0 then toString whole
  else toString whole ++ "." ++ .ofList (fractionDigits width part)

/-- A duration in the largest unit of which it has at least one whole. -/
def text (d : Duration) : String :=
  if 0 < d.seconds then decimalText 9 d.seconds d.nanos ++ "s"
  else if 1_000_000 ≤ d.nanos then
    decimalText 6 (d.nanos / 1_000_000) (d.nanos % 1_000_000) ++ "ms"
  else if 1000 ≤ d.nanos then decimalText 3 (d.nanos / 1000) (d.nanos % 1000) ++ "µs"
  else toString d.nanos ++ "ns"

end Duration

end LintRun
