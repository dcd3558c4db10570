import ContentBlocking.Unicode.CharSet.Table
import ContentBlocking.Unicode.Direction

/-!
# Names in scripts from right to left

A label whose characters run in both directions can be shown in an order that hides where it ends.
The labels of a name with characters that run from right to left therefore keep to one direction.
-/

namespace ContentBlocking.Idna

/-- The classes of characters by their direction. -/
inductive Direction
  | leftToRight
  | rightToLeft
  | arabicLetter
  | arabicNumber
  | europeanNumber
  | nonspacingMark
  /-- Signs in numbers, neutral characters and those without an effect. -/
  | neutral
  /-- Separators, blanks and explicit marks of direction. -/
  | formatting
  deriving DecidableEq, Repr

namespace Direction

/-- The sets of the characters of each class that does not run from left to right. -/
def sets : List (CharSet × Direction) :=
  [(.ofTable Unicode.Direction.rightToLeft, rightToLeft),
    (.ofTable Unicode.Direction.arabicLetter, arabicLetter),
    (.ofTable Unicode.Direction.arabicNumber, arabicNumber),
    (.ofTable Unicode.Direction.europeanNumber, europeanNumber),
    (.ofTable Unicode.Direction.nonspacingMark, nonspacingMark),
    (.ofTables [Unicode.Direction.europeanSeparator, Unicode.Direction.europeanTerminator,
      Unicode.Direction.commonSeparator, Unicode.Direction.boundaryNeutral,
      Unicode.Direction.otherNeutral], neutral),
    (.ofTable Unicode.Direction.formatting, formatting)]

/-- The class of a character. -/
def ofChar (c : Char) : Direction :=
  ((sets.find? (·.1.contains c)).map (·.2)).getD leftToRight

/-- The class of a character that runs from right to left, or a number that goes with them. -/
def isFromRight (d : Direction) : Bool := d ∈ [rightToLeft, arabicLetter, arabicNumber]

/-- The classes at which a label that runs from left to right may end before its marks. -/
def endsLeftToRight (d : Direction) : Bool := d ∈ [leftToRight, europeanNumber]

/-- The classes at which a label that runs from right to left may end before its marks. -/
def endsRightToLeft (d : Direction) : Bool :=
  d ∈ [rightToLeft, arabicLetter, arabicNumber, europeanNumber]

/-- The classes that go with either direction. -/
def isEither (d : Direction) : Bool := d ∈ [europeanNumber, nonspacingMark, neutral]

end Direction

/-- A name has characters that run from right to left. -/
def hasRightToLeft (name : List Char) : Bool :=
  name.any fun c => 0x80 ≤ c.toNat && (Direction.ofChar c).isFromRight

/-- A label keeps to the direction of its first character: it holds no character of the other
direction, it ends in a letter or number before its marks, and from right to left it has numbers of
one kind only. -/
def keepsDirection (label : List Char) : Bool :=
  let ds := label.map Direction.ofChar
  let last := ds.reverse.find? (· ≠ .nonspacingMark)
  match ds with
  | [] => true
  | .leftToRight :: _ =>
    ds.all (fun d => d == .leftToRight || d.isEither) && last.any Direction.endsLeftToRight
  | .rightToLeft :: _ | .arabicLetter :: _ =>
    ds.all (fun d => d.isFromRight || d.isEither) && last.any Direction.endsRightToLeft &&
      !(ds.contains .europeanNumber && ds.contains .arabicNumber)
  | _ => false

end ContentBlocking.Idna
