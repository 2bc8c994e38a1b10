/-!
# Durations

Spans of time as callers give them. They are held and reported in whole milliseconds of 64 bits;
longer ones are cut to the longest. Timers count whole milliseconds as well, but never end early.
-/

namespace TopicStream

/-- A span of time. -/
structure Duration where
  /-- Whole seconds. -/
  seconds : Nat
  /-- Nanoseconds beyond them. -/
  nanos : Nat
  deriving DecidableEq, Repr

namespace Duration

/-- The longest span in milliseconds. -/
def maxMillis : Nat := UInt64.size - 1

/-- The whole milliseconds of a span, at most as many as 64 bits hold. -/
def toMillis (d : Duration) : Nat := min (d.seconds * 1000 + d.nanos / 1000000) maxMillis

/-- The milliseconds after which a timer ends a wait for a span: the whole ones, and one more for
what remains. -/
def timerMillis (d : Duration) : Nat := d.seconds * 1000 + (d.nanos + 999999) / 1000000

/-- The span of a number of milliseconds. -/
def ofMillis (ms : Nat) : Duration := ⟨ms / 1000, ms % 1000 * 1000000⟩

/-- Where a span is asked for, a number is one of milliseconds. -/
instance : Coe Nat Duration := ⟨ofMillis⟩

@[simp]
theorem timerMillis_ofMillis (ms : Nat) : (ofMillis ms).timerMillis = ms := by
  simp only [timerMillis, ofMillis]
  omega

@[simp]
theorem toMillis_ofMillis (ms : Nat) : (ofMillis ms).toMillis = min ms maxMillis := by
  simp only [toMillis, ofMillis]
  omega

end Duration

end TopicStream
