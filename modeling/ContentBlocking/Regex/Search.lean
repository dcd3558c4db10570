import ContentBlocking.Regex.Basic

/-!
# Searching

A search runs all matches of a regular expression side by side.  It keeps a mark for each position
of the text, from before its first to behind its last character, and takes the marks where matches
begin to the marks where they end.  `reach_sequence` says that what `Regex.sequence` simplifies
still matches the same.
-/

namespace ContentBlocking.Regex

/-- One mark for each position of a text, from its start to its end. -/
abbrev Marks := List Bool

/-- The marks of either of two lists. -/
def Marks.union (s t : Marks) : Marks := List.zipWith (· || ·) s t

/-- The marks of both of two lists. -/
def Marks.inter (s t : Marks) : Marks := List.zipWith (· && ·) s t

/-- Each mark moved over the next character if a set has it. -/
def Marks.advance (s : CharSet) (text : List Char) (marks : Marks) : Marks :=
  false :: List.zipWith (fun mark c => mark && s.contains c) marks text

/-- The positions of a text at which a condition holds, after the character `before`. -/
def Look.positions (l : Look) (before : Option Char) : List Char → Marks
  | [] => [l.holds before none]
  | c :: text => l.holds before (some c) :: positions l (some c) text

/-- The marks after exactly `n` steps. -/
def iterate (step : Marks → Marks) : Nat → Marks → Marks
  | 0, marks => marks
  | n + 1, marks => iterate step n (step marks)

/-- The marks after at most `n` steps. -/
def closure (step : Marks → Marks) : Nat → Marks → Marks
  | 0, marks => marks
  | n + 1, marks =>
    let next := marks.union (step marks)
    if next = marks then marks else closure step n next

mutual

/-- The positions at which a match ends that begins at a marked position.  Steps beyond the number
of positions cannot reach another one. -/
def reach (text : List Char) : Regex → Marks → Marks
  | empty, marks => marks
  | literal cs, marks => cs.foldl (fun marks c => marks.advance (.single c) text) marks
  | set _ s, marks => marks.advance s text
  | look l, marks => marks.inter (Look.positions l none text)
  | repetition least most _ sub, marks =>
    let limit := text.length + 1
    let more := match most with
      | none => limit
      | some most => min (most - least) limit
    closure (reach text sub) more (iterate (reach text sub) (min least limit) marks)
  | group _ sub, marks => reach text sub marks
  | concat rs, marks => reachInRow text rs marks
  | alternation rs, marks => reachEither text rs marks

/-- The positions at which a match of several regular expressions in a row ends. -/
def reachInRow (text : List Char) : List Regex → Marks → Marks
  | [], marks => marks
  | r :: rs, marks => reachInRow text rs (reach text r marks)

/-- The positions at which a match of one of several regular expressions ends. -/
def reachEither (text : List Char) : List Regex → Marks → Marks
  | [], marks => marks.map fun _ => false
  | r :: rs, marks => (reach text r marks).union (reachEither text rs marks)

end

/-- Whether a regular expression matches anywhere in a text. -/
def isMatch (r : Regex) (text : String) : Bool :=
  (reach text.toList r (List.replicate (text.toList.length + 1) true)).any id

/-! ### Parts in a row -/

theorem reachInRow_append (text : List Char) (rs ts : List Regex) (marks : Marks) :
    reachInRow text (rs ++ ts) marks = reachInRow text ts (reachInRow text rs marks) := by
  induction rs generalizing marks with
  | nil => rfl
  | cons r rs ih => simp only [List.cons_append, reachInRow, ih]

theorem reachInRow_partsInRow (text : List Char) (r : Regex) (marks : Marks) :
    reachInRow text r.partsInRow marks = reach text r marks := by
  cases r <;> simp only [partsInRow, reachInRow, reach]

theorem reachInRow_flatMap_partsInRow (text : List Char) (rs : List Regex) (marks : Marks) :
    reachInRow text (rs.flatMap partsInRow) marks = reachInRow text rs marks := by
  induction rs generalizing marks with
  | nil => rfl
  | cons r rs ih =>
    simp only [List.flatMap_cons, reachInRow_append, reachInRow_partsInRow, reachInRow, ih]

theorem reachInRow_joinLiterals (text : List Char) (rs : List Regex) (marks : Marks) :
    reachInRow text (joinLiterals rs) marks = reachInRow text rs marks := by
  induction rs generalizing marks with
  | nil => rfl
  | cons r rs ih =>
    unfold joinLiterals
    split
    · next h => cases h
    · next cs rs' h =>
      cases h
      split
      · next ds rest hj =>
        simp only [reachInRow, ← ih, hj, reach, List.foldl_append]
      · simp only [reachInRow, ih]
    · next h =>
      cases h
      simp only [reachInRow, ih]

/-- Putting parts in a row does not change what they match. -/
theorem reach_sequence (text : List Char) (rs : List Regex) (marks : Marks) :
    reach text (sequence rs) marks = reachInRow text rs marks := by
  rw [← reachInRow_flatMap_partsInRow, ← reachInRow_joinLiterals]
  unfold sequence
  split
  · next h => simp only [h, reach, reachInRow]
  · next h => simp only [h, reachInRow]
  · next h _ _ => simp only [reach]

end ContentBlocking.Regex
