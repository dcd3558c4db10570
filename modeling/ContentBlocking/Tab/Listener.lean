import ContentBlocking.Tab

/-!
# Listening for events

A listener reinstalls the rule lists of its tab whenever the blocker asks for it, and once more when
it has missed some events.  It ends at the first event after its tab was closed.
-/

namespace ContentBlocking

/-- What a receiver gets from a channel. -/
inductive Received
  | event (e : Event)
  /-- That many events were missed. -/
  | lagged (missed : Nat)
  deriving DecidableEq, Repr

/-- The next thing that a receiver gets, and its place afterwards; none if nothing waits for it. -/
def Channel.receive? (c : Channel) (r : Cursor) : Option (Received × Cursor) :=
  if 0 < c.missed r then some (.lagged (c.missed r), r + c.missed r)
  else (c.waiting r).head?.map fun e => (.event e, r + 1)

/-- Everything that waits for a receiver, and its place afterwards. -/
def Channel.drain (c : Channel) (r : Cursor) : List Received × Cursor :=
  ((if 0 < c.missed r then [.lagged (c.missed r)] else []) ++ (c.waiting r).map .event, c.sent)

/-- The tab after its listener got something. -/
def Tab.hear (t : Tab) (b : Blocker) : Received → Tab
  | .event e => t.handle b e
  | .lagged _ => (t.setup b).2

/-- The place of a listener, and whether it still runs. -/
structure Listener where
  cursor : Cursor
  running : Bool
  deriving DecidableEq, Repr

namespace Listener

/-- The listener that starts now. -/
def start (c : Channel) : Listener := ⟨c.subscribe, true⟩

/-- One round of a listener of an open tab. -/
def step (l : Listener) (b : Blocker) (t : Tab) : Listener × Tab :=
  match b.events.receive? l.cursor with
  | none => (l, t)
  | some (r, cursor) => ({ l with cursor }, t.hear b r)

/-- All rounds of a listener until nothing waits for it; the tab is none if it was closed. -/
def run (l : Listener) (b : Blocker) (t : Option Tab) : Listener × Option Tab :=
  let (received, cursor) := b.events.drain l.cursor
  match t with
  | none => (⟨cursor, l.running && received.isEmpty⟩, none)
  | some t => ({ l with cursor }, some (received.foldl (fun t r => t.hear b r) t))

end Listener

end ContentBlocking
