/-!
# Durations

A duration is a number of nanoseconds, of which the seconds fit 64 bits. Scaling a duration stops
at the longest one.
-/

namespace KernelClient

structure Duration where
  nanoseconds : Nat
deriving DecidableEq, Inhabited

namespace Duration

def ofSeconds (seconds : Nat) : Duration := ⟨seconds * 1000000000⟩

def ofMilliseconds (milliseconds : Nat) : Duration := ⟨milliseconds * 1000000⟩

/-- All seconds that fit 64 bits and all nanoseconds of the last one. -/
def longest : Duration := ⟨UInt64.size * 1000000000 - 1⟩

def seconds (duration : Duration) : Nat := duration.nanoseconds / 1000000000

def subsecond (duration : Duration) : Nat := duration.nanoseconds % 1000000000

/-- Whole milliseconds, of which a timer waits at least as many as the duration holds. -/
def milliseconds (duration : Duration) : Nat := (duration.nanoseconds + 999999) / 1000000

/-- A multiple of a duration, or the longest duration beyond it. -/
def scale (duration : Duration) (factor : Nat) : Duration :=
  ⟨min (duration.nanoseconds * factor) longest.nanoseconds⟩

def atMost (duration limit : Duration) : Duration :=
  ⟨min duration.nanoseconds limit.nanoseconds⟩

end Duration

end KernelClient
