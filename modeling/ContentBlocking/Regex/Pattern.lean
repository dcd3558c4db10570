import ContentBlocking.Regex.Automaton.Build
import ContentBlocking.Regex.Flags

/-!
# Patterns

`Regex.ofPattern?` is the regular expression that a pattern writes.  A pattern is valid if it can be
read, if its classes have a meaning and if its automata are not too large.
-/

namespace ContentBlocking.Regex

/-- The regular expression that a tree stands for. -/
def ofTree? (tree : Tree) : Option Regex := do
  let (r, _) ← Context.regex? ⟨.initial, 0⟩ tree
  if r.fits then some r else none

/-- The regular expression that a pattern writes. -/
def ofPattern? (pattern : String) : Option Regex := do
  ofTree? (← Tree.ofText? pattern.toList)

end ContentBlocking.Regex
