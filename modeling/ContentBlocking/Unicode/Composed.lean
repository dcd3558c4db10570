import ContentBlocking.Unicode.Combining
import ContentBlocking.Unicode.Table

/-!
# Composed text

A character with a mark can be written as one character or as two, and several marks can stand in
any order.  `composed` writes a text in one way: the marks behind a character are put in the order
of their combining classes, and what can be written as one character is.  This is the normalization
form C of Unicode for texts of characters that have no other decompositions.
-/

namespace ContentBlocking.Unicode

/-- The ranges of characters with a combining class other than zero. -/
def combiningClasses : List TableEntry := TableEntry.ofTable Combining.classes

/-- The combining class of a character; zero for those at which an order of marks begins anew. -/
def combiningClass (n : Nat) : Nat :=
  if n < 0x300 then 0
  else ((combiningClasses.find? (·.has n)).bind (·.values.head?)).getD 0

/-- The characters that stand for two others. -/
def compositions : List TableEntry := TableEntry.ofTable Combining.pairs

/-! ### Korean syllables

A syllable is composed of a first consonant, a vowel and at most one last consonant, by the order of
their code points. -/

/-- The first syllable. -/
def firstSyllable : Nat := 0xAC00

/-- The number of syllables. -/
def syllableCount : Nat := 11172

/-- The first consonant at the start of a syllable. -/
def firstLeading : Nat := 0x1100

/-- The first vowel. -/
def firstVowel : Nat := 0x1161

/-- The number of vowels. -/
def vowelCount : Nat := 21

/-- The code point before the first consonant at the end of a syllable. -/
def noTrailing : Nat := 0x11A7

/-- The number of consonants at the end of a syllable, with none counted. -/
def trailingCount : Nat := 28

/-- The number of a syllable. -/
def syllable? (n : Nat) : Option Nat :=
  if firstSyllable ≤ n ∧ n < firstSyllable + syllableCount then some (n - firstSyllable) else none

/-- The two characters for which a syllable stands. -/
def splitSyllable (s : Nat) : Nat × Nat :=
  let trailing := s % trailingCount
  if trailing = 0 then
    (firstLeading + s / trailingCount / vowelCount, firstVowel + s / trailingCount % vowelCount)
  else (firstSyllable + s - trailing, noTrailing + trailing)

/-- The syllable for which two characters stand. -/
def joinSyllable? (a b : Nat) : Option Nat :=
  if firstLeading ≤ a ∧ a < firstLeading + 19 ∧ firstVowel ≤ b ∧ b < firstVowel + vowelCount then
    some (firstSyllable +
      ((a - firstLeading) * vowelCount + (b - firstVowel)) * trailingCount)
  else if noTrailing < b ∧ b < noTrailing + trailingCount then do
    let s ← syllable? a
    if s % trailingCount = 0 then some (a + (b - noTrailing)) else none
  else none

/-! ### Pairs -/

/-- The two characters for which a character stands. -/
def splitPair? (n : Nat) : Option (Nat × Nat) :=
  match syllable? n with
  | some s => some (splitSyllable s)
  | none =>
    match (compositions.find? (·.has n)).map (·.values) with
    | some [a, b] => some (a, b)
    | _ => none

/-- The character that stands for two others. -/
def joinPair? (a b : Nat) : Option Nat :=
  (joinSyllable? a b).or ((compositions.find? (·.values == [a, b])).map (·.first))

/-- A character with its marks taken off, at most `count` of them. -/
def decompose : Nat → Nat → List Nat
  | 0, n => [n]
  | count + 1, n =>
    match splitPair? n with
    | some (a, b) => decompose count a ++ [b]
    | none => [n]

/-- No character stands for one with more marks than this. -/
def maxMarks : Nat := 3

/-! ### Texts -/

/-- A text with a character in front, which is moved behind the marks of a lower class. -/
def insertMark (n : Nat) : List Nat → List Nat
  | [] => [n]
  | m :: rest =>
    if combiningClass m ≠ 0 ∧ combiningClass m < combiningClass n then m :: insertMark n rest
    else n :: m :: rest

/-- A text with its marks in order. -/
def orderMarks (ns : List Nat) : List Nat := ns.foldr insertMark []

/-- A character with the text behind it composed.  The marks of class `latest` and below that could
not be joined with it so far are given with the last one first. -/
def composeFrom (n : Nat) (marks : List Nat) (latest : Nat) : List Nat → List Nat
  | [] => n :: marks.reverse
  | m :: rest =>
    let c := combiningClass m
    let joint := if marks = [] ∨ latest < c then joinPair? n m else none
    match joint with
    | some p => composeFrom p marks latest rest
    | none =>
      if c = 0 then n :: marks.reverse ++ composeFrom m [] 0 rest
      else composeFrom n (m :: marks) c rest

/-- A text in order composed; marks in front of all other characters stay. -/
def compose : List Nat → List Nat
  | [] => []
  | n :: rest => if combiningClass n = 0 then composeFrom n [] 0 rest else n :: compose rest

/-- A text in its composed form; ASCII has no marks. -/
def composed (cs : List Char) : List Char :=
  if cs.all fun c => c.toNat < 0x80 then cs
  else
    let ns := cs.flatMap fun c => decompose maxMarks c.toNat
    (compose (orderMarks ns)).map Char.ofNat

end ContentBlocking.Unicode
