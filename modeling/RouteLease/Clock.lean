/-!
# Clocks

The manager reads time in whole seconds. A manual clock is set and advanced by hand; advancing
wraps around at 2^64, as an atomic counter does. A monotonic clock counts seconds since it was
created, so a fresh one reads zero.
-/

namespace RouteLease

/-- A clock that only moves when told to. -/
structure ManualClock where
  now : UInt64 := 0
  deriving DecidableEq

namespace ManualClock

/-- Moves the clock forward by `secs`, wrapping at 2^64. -/
def advance (c : ManualClock) (secs : UInt64) : ManualClock :=
  ⟨c.now + secs⟩

/-- Sets the clock. -/
def set (_ : ManualClock) (secs : UInt64) : ManualClock :=
  ⟨secs⟩

end ManualClock

/-- The reading of a monotonic clock at its creation: it counts from zero. -/
def monotonicStart : Nat := 0

end RouteLease
