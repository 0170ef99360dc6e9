/-!
# Polls

A poll happens once in each period, the first time one period after it starts. One that is late by
more than a tolerance moves the later ones.
-/

namespace KernelClient

/-- The periods of the polls of a manager, in milliseconds. A poll without one, or with one of zero,
is off. -/
structure PollOptions where
  running : Option Nat
  specs : Option Nat
deriving DecidableEq, Inhabited

namespace PollOptions

/-- Ten seconds for the running resources; the specs are offset, so that both do not line up. -/
def usual : PollOptions := ⟨some 10000, some 61000⟩

def off : PollOptions := ⟨none, none⟩

end PollOptions

/-- A clock that ticks once in each period. -/
structure Interval where
  period : Nat
  deadline : Nat
deriving DecidableEq, Inhabited

namespace Interval

/-- How late a tick may be without moving the next one. -/
def tolerance : Nat := 5

def start (period now : Nat) : Interval := ⟨period, now + period⟩

def isDue (interval : Interval) (now : Nat) : Bool := interval.deadline ≤ now

/-- Tick, and set the time of the next tick. -/
def tick (interval : Interval) (now : Nat) : Interval :=
  if interval.deadline + tolerance < now then { interval with deadline := now + interval.period }
  else { interval with deadline := interval.deadline + interval.period }

end Interval

end KernelClient
