import ContentBlocking.Regex.Automaton.ByteRanges
import ContentBlocking.Regex.Automaton.Size
import Std.Data.ExtTreeMap

/-!
# The states of sets

An automaton reads a character of a set beyond ASCII byte by byte.  States with the same arrows are
shared: a table of limited size remembers the latest state for each hash of its arrows.
-/

namespace ContentBlocking.Regex.Automaton

/-- The arrows of a state: ranges of bytes, each with the number of the next state. -/
abbrev Arrows := List (ByteRange × Nat)

/-- The states that can be shared, each in the slot of its hash. -/
structure Shared where
  slots : Std.ExtTreeMap Nat (Arrows × Nat)

/-- No states to share. -/
def Shared.empty : Shared := ⟨∅⟩

/-- The hash of some numbers: each is joined by exclusive or and spread by a product with a prime,
modulo the greatest word. -/
def hash (ns : List Nat) : UInt64 :=
  ns.foldl (fun h n => (h ^^^ n.toUInt64) * 1099511628211) 14695981039346656037

/-- What builds states that can be shared. -/
abbrev SharedBuilder := StateT Shared Builder

namespace Shared

/-- The state for some arrows among the `size` slots, at the slot of a hash: the one that is there
for the same arrows or a new one, which takes the slot. -/
def state (size : Nat) (h : UInt64) (arrows : Arrows) (listed : Nat) : SharedBuilder Nat := do
  let slot := h.toNat % size
  match (← get).slots[slot]? with
  | some (known, n) => if known = arrows then return n
  | none => pure ()
  let n ← Builder.state listed
  modify fun s => ⟨s.slots.insert slot (arrows, n)⟩
  return n

end Shared

/-! ### Forward -/

/-- The slots for the states of a set that is read forward. -/
def forwardSlots : Nat := 10000

/-- Sequences by their first range of bytes, where those with the same one follow each other. -/
def groupFirst : List (List ByteRange) → List (ByteRange × List (List ByteRange))
  | [] => []
  | [] :: rest => groupFirst rest
  | (r :: tail) :: rest =>
    match groupFirst rest with
    | (t, tails) :: groups =>
      if r = t then (t, tail :: tails) :: groups else (r, [tail]) :: (t, tails) :: groups
    | [] => [(r, [tail])]

/-- The state that reads one of several sequences of at most `length` bytes and goes on with the
state `target`; the states of the tails come before it. -/
def sequencesState (target : Nat) : Nat → List (List ByteRange) → SharedBuilder Nat
  | 0, _ => return target
  | length + 1, sequences => do
    if sequences.all List.isEmpty then return target
    let arrows ← (groupFirst sequences).mapM fun (r, tails) => do
      return (r, ← sequencesState target length tails)
    let key := arrows.flatMap fun ((first, last), next) => [first, last, next]
    Shared.state forwardSlots (hash key) arrows (Size.arrowBytes * arrows.length)

/-- The states that read a character of a set forward. -/
def forwardSet (s : CharSet) : Builder Unit := do
  let target ← Builder.state 0
  let _ ← (sequencesState target 4 (s.ranges.flatMap byteRanges)).run .empty

/-! ### Backward -/

/-- The slots for the states of a set that is read backward. -/
def backwardSlots : Nat := 1000

/-- The state that reads a range of bytes and goes on with the state `next`. -/
def rangeState (next : Nat) (r : ByteRange) : SharedBuilder Nat :=
  Shared.state backwardSlots (hash [next, r.1, r.2]) [(r, next)] 0

/-- The states that read a character of a set backward: a choice, its end, and for each sequence of
ranges the states from its last byte to its first. -/
def backwardSet (s : CharSet) : Builder Unit := do
  let _ ← Builder.state 0
  let target ← Builder.state 0
  let sequences := s.ranges.flatMap byteRanges
  let _ ← (sequences.forM fun sequence => do
    let _ ← sequence.foldlM rangeState target
    Builder.link true : SharedBuilder Unit).run .empty

/-- The states that read a character of a set. -/
def setStates (d : Direction) (s : CharSet) : Builder Unit :=
  if s.isAscii then do
    let _ ← Builder.state 0
    let _ ← Builder.state (Size.arrowBytes * s.ranges.length)
  else
    match d with
    | .forward => forwardSet s
    | .backward => backwardSet s

end ContentBlocking.Regex.Automaton
