/-!
# Durations

A span of time in whole seconds and nanoseconds, and its text: the largest unit among seconds,
milliseconds, microseconds and nanoseconds whose whole part is not zero, with as many decimal
places as are needed.
-/

namespace RateLimit

/-- A span of time. -/
structure Duration where
  /-- Whole seconds. -/
  secs : Nat
  /-- Nanoseconds beyond the whole seconds. -/
  nanos : Nat
  nanos_lt : nanos < 1000000000
  deriving DecidableEq, Repr

namespace Duration

/-- A number of whole seconds. -/
def ofSecs (secs : Nat) : Duration := ⟨secs, 0, by decide⟩

/-- A number of milliseconds. -/
def ofMillis (millis : Nat) : Duration := ⟨millis / 1000, millis % 1000 * 1000000, by omega⟩

/-- A number of nanoseconds. -/
def ofNanos (nanos : Nat) : Duration := ⟨nanos / 1000000000, nanos % 1000000000, by omega⟩

/-- The whole span in nanoseconds. -/
def toNanos (d : Duration) : Nat := d.secs * 1000000000 + d.nanos

@[simp]
theorem toNanos_ofNanos (nanos : Nat) : (ofNanos nanos).toNanos = nanos := by
  simp only [toNanos, ofNanos]
  omega

/-- A span of time is given by its nanoseconds. -/
theorem ofNanos_toNanos (d : Duration) : ofNanos d.toNanos = d := by
  obtain ⟨secs, nanos, hnanos⟩ := d
  have hsecs : (secs * 1000000000 + nanos) / 1000000000 = secs := by omega
  have hrest : (secs * 1000000000 + nanos) % 1000000000 = nanos := by omega
  simp only [ofNanos, toNanos, hsecs, hrest]

/-- The whole span in milliseconds, rounded down. -/
def toMillis (d : Duration) : Nat := d.secs * 1000 + d.nanos / 1000000

/-- The decimal places of `rest / 10 ^ places`, with the point in front and no zeros at the
end. -/
def fractionText (rest places : Nat) : String :=
  let digits := Nat.toDigits 10 rest
  let padded := List.replicate (places - digits.length) '0' ++ digits
  let kept := (padded.reverse.dropWhile (· = '0')).reverse
  if kept.isEmpty then "" else String.ofList ('.' :: kept)

/-- The text of a duration. -/
def text (d : Duration) : String :=
  if 0 < d.secs then s!"{d.secs}{fractionText d.nanos 9}s"
  else if 1000000 ≤ d.nanos then s!"{d.nanos / 1000000}{fractionText (d.nanos % 1000000) 6}ms"
  else if 1000 ≤ d.nanos then s!"{d.nanos / 1000}{fractionText (d.nanos % 1000) 3}µs"
  else s!"{d.nanos}ns"

end Duration

end RateLimit
