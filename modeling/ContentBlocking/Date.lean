/-!
# Dates

A date is a number of nanoseconds since the epoch.  Markers compare and keep whole milliseconds.
-/

namespace ContentBlocking

/-- A point in time, in nanoseconds since the epoch. -/
structure Date where
  nanos : Int
  deriving DecidableEq, Repr, Inhabited

namespace Date

/-- The later one of two dates. -/
def max (a b : Date) : Date := if a.nanos ≤ b.nanos then b else a

/-- The nanoseconds of a millisecond. -/
def nanosPerMilli : Nat := 1000000

/-- The whole milliseconds since the epoch, as a number of 64 bits; none before the epoch. -/
def millis? (d : Date) : Option Nat :=
  if 0 ≤ d.nanos then some (d.nanos.toNat / nanosPerMilli % 0x10000000000000000) else none

/-- The date at a number of milliseconds since the epoch. -/
def ofMillis (n : Nat) : Date := ⟨n * nanosPerMilli⟩

/-- Whether some milliseconds are later than others; no milliseconds at all come first. -/
def laterMillis : Option Nat → Option Nat → Bool
  | none, _ => false
  | some _, none => true
  | some a, some b => b < a

end Date

end ContentBlocking
