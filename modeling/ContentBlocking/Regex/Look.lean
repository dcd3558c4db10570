import ContentBlocking.Unicode.CharSet

/-!
# Conditions on positions

A `Look` is a condition on a position of a text.  It reads the characters on both sides of the
position and no others.
-/

namespace ContentBlocking

/-- A condition on a position between two characters. -/
inductive Look
  | textStart
  | textEnd
  | lineStart
  | lineEnd
  | lineStartCrlf
  | lineEndCrlf
  /-- The characters around the position are in `letters` as the table of the four cases says: for
  neither, for the next one only, for the one before only, and for both. -/
  | word (letters : CharSet) (neither next before both : Bool)
  deriving DecidableEq, Repr

/-- Whether a condition holds between the character before and the next one. -/
def Look.holds (l : Look) (before next : Option Char) : Bool :=
  match l with
  | .textStart => before.isNone
  | .textEnd => next.isNone
  | .lineStart => before.isNone || before == some '\n'
  | .lineEnd => next.isNone || next == some '\n'
  | .lineStartCrlf =>
    before.isNone || before == some '\n' || before == some '\r' && next != some '\n'
  | .lineEndCrlf =>
    next.isNone || next == some '\r' || next == some '\n' && before != some '\r'
  | .word letters neither onlyNext onlyBefore both =>
    match before.any letters.contains, next.any letters.contains with
    | false, false => neither
    | false, true => onlyNext
    | true, false => onlyBefore
    | true, true => both

end ContentBlocking
