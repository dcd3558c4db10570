import ContentBlocking.Unicode.CharSet.Table
import ContentBlocking.Unicode.Composed
import ContentBlocking.Unicode.Joining

/-!
# Joiners in names

The joiner and the non-joiner change how the characters beside them are shown and are otherwise not
seen.  A label has them only where they make a difference: behind the sign that takes the vowel from
a consonant, and the non-joiner also between two characters that would be joined.
-/

namespace ContentBlocking.Idna

/-- The non-joiner. -/
def nonJoiner : Char := '\u200c'

/-- The joiner. -/
def joiner : Char := '\u200d'

/-- The combining class of the signs that take the vowel from a consonant. -/
def viramaClass : Nat := 9

/-- The characters that join the one after them. -/
def joinsNext : CharSet := .ofTables [Unicode.Joining.dual, Unicode.Joining.left]

/-- The characters that join the one before them. -/
def joinsPrevious : CharSet := .ofTables [Unicode.Joining.dual, Unicode.Joining.right]

/-- The characters over which others join. -/
def transparent : CharSet := .ofTable Unicode.Joining.transparent

/-- A joiner or non-joiner `c` makes a difference between what is before it, with the last character
first, and what follows. -/
def makesDifference (c : Char) (before after : List Char) : Bool :=
  match before with
  | [] => false
  | previous :: _ =>
    Unicode.combiningClass previous.toNat == viramaClass ||
      c == nonJoiner && (before.find? (!transparent.contains ·)).any joinsNext.contains &&
        (after.find? (!transparent.contains ·)).any joinsPrevious.contains

/-- The joiners and non-joiners of a text behind some characters, the last one first, make a
difference. -/
def joinersFitAfter (before : List Char) : List Char → Bool
  | [] => true
  | c :: after =>
    (!(c == joiner || c == nonJoiner) || makesDifference c before after) &&
      joinersFitAfter (c :: before) after

/-- The joiners and non-joiners of a label make a difference. -/
def joinersFit (label : List Char) : Bool := joinersFitAfter [] label

end ContentBlocking.Idna
