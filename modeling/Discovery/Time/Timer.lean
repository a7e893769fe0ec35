import Discovery.Time.Duration
/-!
How long a wait on a timer takes.

* `Timer.span`: a timer counts whole milliseconds, so a wait is rounded up to
  them, and it never runs for more than thirty years.
-/

namespace Discovery.Timer

/-- The nanoseconds of a millisecond, in which timers count. -/
abbrev tick : Nat := 1000000

/-- The longest wait, thirty years of 365 days. -/
def longest : Duration := .ofSecs 946080000

/-- How long a wait takes that is to last for a given time. -/
def span (d : Duration) : Duration :=
  (Duration.ofNanos ((d.toNanos + (tick - 1)) / tick * tick)).shorter longest

end Discovery.Timer
