import ContentBlocking.Site.Idna.Direction
import ContentBlocking.Site.Idna.Joiner
import ContentBlocking.Site.Idna.Mapping
import ContentBlocking.Site.Punycode

/-!
# Domain names in ASCII

A domain name with characters beyond ASCII is compared in its ASCII form: it is brought into its
mapped form, and each label that is not in ASCII afterwards is encoded behind `xn--`.
-/

namespace ContentBlocking.Idna

/-- The mark in front of an encoded label. -/
def acePrefix : List Char := ['x', 'n', '-', '-']

/-- Whether a label holds ASCII characters only. -/
def isAscii (label : List Char) : Bool := label.all fun c => c.toNat < 0x80

/-- A label with characters beyond ASCII may have this many characters. -/
def maxLabelLength : Nat := 1000

/-- The encoding of a label may have this many characters. -/
def maxEncodedLength : Nat := 2000

/-- A label of a name: its characters, and how it is written in ASCII. -/
structure Label where
  chars : List Char
  ascii : List Char
  deriving DecidableEq, Repr

namespace Label

/-- The label of an encoding, which must stand for a label in mapped form that needs it. -/
def ofEncoding? (encoding : List Char) : Option Label := do
  if encoding = [] ∨ maxEncodedLength < encoding.length then none
  let chars ← Punycode.decode? encoding
  if isAscii chars ∨ maxLabelLength < chars.length ∨ mapped? chars ≠ some chars then none
  return ⟨chars, acePrefix ++ encoding⟩

/-- The label that a label of a name in mapped form writes. -/
def ofMapped? (label : List Char) : Option Label :=
  if acePrefix.isPrefixOf label then ofEncoding? (label.drop acePrefix.length)
  else if isAscii label then some ⟨label, label⟩
  else if maxLabelLength < label.length then none
  else some ⟨label, acePrefix ++ Punycode.encode label⟩

/-- Marks, with which no label begins. -/
def marks : CharSet := .ofTable Unicode.Combining.marks

/-- The characters of a label may stand together. -/
def isValid (label : Label) : Bool :=
  !label.chars.head?.any marks.contains && joinersFit label.chars

end Label

/-- A domain name in ASCII; none if it holds what no name holds. -/
def toAscii? (name : List Char) : Option (List Char) := do
  let labels ← (Text.splitOn '.' (← mapped? name)).mapM Label.ofMapped?
  let bothWays := labels.any fun label => hasRightToLeft label.chars
  if labels.all fun label => label.isValid && (!bothWays || keepsDirection label.chars) then
    return Text.joinWith '.' (labels.map (·.ascii))
  else none

end ContentBlocking.Idna
