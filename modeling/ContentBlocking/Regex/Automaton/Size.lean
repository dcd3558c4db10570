/-!
# The size of automata

An automaton is a list of states, of which some hold lists of their own.  A `Builder` builds a part
of an automaton; it only counts, and it has no result once the automaton is larger than
`Size.maxBytes`.
-/

namespace ContentBlocking.Regex.Automaton

/-- The direction in which an automaton reads a text. -/
inductive Direction
  | forward
  | backward
  deriving DecidableEq, Repr

/-- How large an automaton is. -/
structure Size where
  states : Nat
  /-- The bytes in the lists that states hold. -/
  listed : Nat
  deriving DecidableEq, Repr

/-- The bytes of a state without its list. -/
def Size.stateBytes : Nat := 32

/-- The bytes of an arrow in a list: two bytes of input and a state. -/
def Size.arrowBytes : Nat := 8

/-- The bytes of a branch in a list: a state. -/
def Size.branchBytes : Nat := 4

/-- The bytes of an automaton. -/
def Size.bytes (s : Size) : Nat := stateBytes * s.states + s.listed

/-- An automaton may be this large. -/
def Size.maxBytes : Nat := 10 * 1024 * 1024

/-- The size of two parts together. -/
def Size.add (s t : Size) : Size := ⟨s.states + t.states, s.listed + t.listed⟩

theorem Size.bytes_add (s t : Size) : (s.add t).bytes = s.bytes + t.bytes := by
  simp only [bytes, add, Nat.mul_add]
  omega

/-- The size of an automaton without states. -/
def Size.zero : Size := ⟨0, 0⟩

/-- What builds a part of an automaton: from the size before it to a result and the size after. -/
abbrev Builder := StateT Size Option

namespace Builder

/-- A part of a known size. -/
def grow (part : Size) : Builder Unit := fun size =>
  let size := size.add part
  if size.bytes ≤ Size.maxBytes then some ((), size) else none

/-- A part is built if and only if all together is small enough. -/
theorem grow_eq_some_iff {part size after : Size} :
    grow part size = some ((), after) ↔ size.bytes + part.bytes ≤ Size.maxBytes ∧
      after = size.add part := by
  simp only [grow, Size.bytes_add]
  split
  · next h => simp [h, eq_comm]
  · next h => simp [h]

/-- A state with a list of some bytes; the result is its number. -/
def state (listed : Nat) : Builder Nat := do
  let size ← get
  grow ⟨1, listed⟩
  return size.states

/-- A link from the end of a part, which takes a branch if the end is a choice. -/
def link (fromChoice : Bool) : Builder Unit :=
  if fromChoice then grow ⟨0, Size.branchBytes⟩ else pure ()

end Builder

end ContentBlocking.Regex.Automaton
