import ContentBlocking.Unicode.CaseFolding
import ContentBlocking.Unicode.CharSet
import ContentBlocking.Unicode.Table

/-!
# Sets of characters from tables

`CharSet.ofTable` is the set of the characters in the ranges of a table.  `CharSet.caseClosure` adds
to a set the characters that differ in case only.
-/

namespace ContentBlocking.CharSet

/-- The set of a table. -/
def ofTable (table : List String) : CharSet :=
  .ofRanges ((Unicode.TableEntry.ofTable table).map fun e => (e.first, e.last))

/-- The set of several tables. -/
def ofTables (tables : List (List String)) : CharSet :=
  .ofRanges (tables.flatMap fun table => (ofTable table).ranges)

/-- The sets of characters that differ in case only, as lists of code points. -/
def caseOrbits : List (List Nat) :=
  (Unicode.wordsOfTable Unicode.CaseFolding.table).map fun orbit =>
    (Text.splitOn ',' orbit).map Unicode.natOfHex

/-- The characters of a set and those that differ from one of them in case only. -/
def caseClosure (s : CharSet) : CharSet :=
  let orbits := caseOrbits.filter fun orbit => orbit.any s.hasCode
  .ofRanges (s.ranges ++ orbits.flatMap fun orbit => orbit.map fun n => (n, n))

end ContentBlocking.CharSet
