/-!
# Durations

Spans of time in nanoseconds, up to a greatest one: `2 ^ 64` seconds less a nanosecond.
-/

namespace FleetOperator

/-- A span of time in nanoseconds. -/
structure Duration where
  nanoseconds : Nat
deriving DecidableEq, Repr, Inhabited

namespace Duration

/-- A span given in milliseconds. -/
def ofMilliseconds (n : Nat) : Duration := ⟨n * 1000000⟩

/-- A span given in seconds. -/
def ofSeconds (n : Nat) : Duration := ⟨n * 1000000000⟩

/-- The whole milliseconds of a span. -/
def milliseconds (d : Duration) : Nat := d.nanoseconds / 1000000

/-- The whole seconds of a span. -/
def seconds (d : Duration) : Nat := d.nanoseconds / 1000000000

/-- Two spans one after the other. -/
def plus (d other : Duration) : Duration := ⟨d.nanoseconds + other.nanoseconds⟩

/-- The greatest span. -/
def greatest : Duration := ⟨Nat.pow 2 64 * 1000000000 - 1⟩

/-- A multiple of a span, or the greatest span when it would be longer. -/
def times (d : Duration) (factor : Nat) : Duration :=
  ⟨min (d.nanoseconds * factor) greatest.nanoseconds⟩

end Duration

end FleetOperator
