import ContentBlocking.Json.Value

/-!
# Least recently used entries

A cache of bounded size that forgets the entry that was not used for the longest time.  A use is
an insertion or a successful `Lru.get`; `Lru.peek` is none.
-/

namespace ContentBlocking

/-- A cache of texts under textual keys. -/
structure Lru where
  capacity : Nat
  entries : Dict String
  /-- The keys from the least to the most recently used one. -/
  order : List String

namespace Lru

/-- The cache without entries. -/
def empty (capacity : Nat) : Lru := ⟨capacity, ∅, []⟩

/-- The number of entries. -/
def size (c : Lru) : Nat := c.entries.size

/-- The value of a key, without using it. -/
def peek (c : Lru) (key : String) : Option String := c.entries[key]?

/-- The keys with one of them moved to the most recently used end. -/
def touch (key : String) (order : List String) : List String :=
  order.filter (· != key) ++ [key]

/-- The value of a key, which is used if it is there. -/
def get (c : Lru) (key : String) : Option String × Lru :=
  match c.entries[key]? with
  | some value => (some value, { c with order := touch key c.order })
  | none => (none, c)

/-- The cache without its least recently used entry. -/
def dropOldest (c : Lru) : Lru :=
  match c.order with
  | [] => c
  | oldest :: order => { c with entries := c.entries.erase oldest, order }

/-- The cache with a value for a key; a new key in a full cache takes the place of the oldest. -/
def insert (c : Lru) (key value : String) : Lru :=
  let c := if c.capacity ≤ c.entries.size ∧ ¬c.entries.contains key then c.dropOldest else c
  { c with entries := c.entries.insert key value, order := touch key c.order }

/-- The cache without its entries. -/
def clear (c : Lru) : Lru := empty c.capacity

end Lru

end ContentBlocking
