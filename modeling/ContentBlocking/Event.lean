/-!
# Events

A channel hands its events to every receiver in the order in which they were sent.  It keeps the
newest ones only; a receiver that falls behind learns how many it missed and goes on with the oldest
one that is left.
-/

namespace ContentBlocking

/-- What the blocker tells the tabs. -/
inductive Event
  /-- The rule lists are compiled and the tracker database was loaded if it can be. -/
  | setupCompleted
  /-- The tabs should reinstall their rule lists. -/
  | setupRequired
  /-- The statistics of a tab changed. -/
  | statsChanged (tab : Nat)
  deriving DecidableEq, Repr

/-- The events that were sent. -/
structure Channel where
  /-- How many events were sent. -/
  sent : Nat
  /-- The events that are kept, the oldest one first. -/
  kept : List Event
  deriving DecidableEq, Repr

/-- The number of events that a receiver has seen or missed. -/
abbrev Cursor := Nat

namespace Channel

/-- The number of events that are kept. -/
def capacity : Nat := 64

/-- The channel before the first event. -/
def empty : Channel := ⟨0, []⟩

/-- The channel with one more event. -/
def send (c : Channel) (e : Event) : Channel :=
  let kept := c.kept ++ [e]
  ⟨c.sent + 1, kept.drop (kept.length - capacity)⟩

/-- The channel after some events. -/
def sendAll (c : Channel) (es : List Event) : Channel := es.foldl send c

/-- The place of a receiver that sees what is sent from now on. -/
def subscribe (c : Channel) : Cursor := c.sent

/-- The number of events that a receiver missed. -/
def missed (c : Channel) (r : Cursor) : Nat := c.sent - c.kept.length - r

/-- The events that wait for a receiver. -/
def waiting (c : Channel) (r : Cursor) : List Event :=
  c.kept.drop (r - (c.sent - c.kept.length))

end Channel

end ContentBlocking
