/-!
# Syntax trees of regular expressions

`Regex.Tree` is a regular expression as it is written.  What a flag, a class name or a literal
stands for is left open; `Regex.Tree.depth` measures how deeply its parts are nested.
-/

namespace ContentBlocking.Regex

/-- A character that stands for itself. -/
structure Literal where
  char : Char
  /-- The character is written by two hexadecimal digits and can stand for a byte. -/
  isByte : Bool
  deriving DecidableEq, Repr

/-- A flag of a group or of the rest of a group. -/
inductive Flag
  | caseInsensitive
  | multiLine
  | dotMatchesNewLine
  | swapGreed
  | unicode
  | crlf
  | ignoreSpace
  deriving DecidableEq, Repr

/-- Flags to switch on and flags to switch off. -/
structure FlagChange where
  on : List Flag
  off : List Flag
  deriving DecidableEq, Repr

/-- The setting of a flag after a change, if the change mentions it. -/
def FlagChange.setting? (f : FlagChange) (flag : Flag) : Option Bool :=
  if flag ∈ f.on then some true else if flag ∈ f.off then some false else none

/-- The classes of one letter. -/
inductive LetterClass
  | digit
  | space
  | word
  deriving DecidableEq, Repr

/-- The classes with a name in square brackets and colons. -/
inductive AsciiClass
  | alnum | alpha | ascii | blank | cntrl | digit | graph | lower | print | punct | space | upper
  | word | xdigit
  deriving DecidableEq, Repr

/-- A class named by Unicode. -/
structure UnicodeClass where
  negated : Bool
  name : List Char
  /-- The value of the property that `name` names. -/
  value : Option (List Char)
  deriving DecidableEq, Repr

/-- The operations on classes. -/
inductive ClassOp
  | intersection
  | difference
  | symmetricDifference
  deriving DecidableEq, Repr

mutual

/-- A set of characters in square brackets. -/
inductive ClassSet
  | union (items : List ClassItem)
  | binary (op : ClassOp) (left right : ClassSet)

/-- An item of such a set. -/
inductive ClassItem
  | literal (l : Literal)
  | range (first last : Literal)
  | ascii (negated : Bool) (name : AsciiClass)
  | letter (negated : Bool) (name : LetterClass)
  | unicode (c : UnicodeClass)
  | bracketed (negated : Bool) (inner : ClassSet)

end

instance : Inhabited ClassSet := ⟨.union []⟩

/-- The conditions on a position that a pattern can state. -/
inductive Anchor
  | lineStart
  | lineEnd
  | textStart
  | textEnd
  | wordBoundary
  | notWordBoundary
  | wordStart
  | wordEnd
  | wordStartHalf
  | wordEndHalf
  deriving DecidableEq, Repr

/-- A regular expression as it is written. -/
inductive Tree
  | empty
  | flags (f : FlagChange)
  | literal (l : Literal)
  | dot
  | anchor (a : Anchor)
  | letter (negated : Bool) (name : LetterClass)
  | unicode (c : UnicodeClass)
  | bracketed (negated : Bool) (inner : ClassSet)
  /-- A repetition; `lazy` is the mark that fewer rounds are preferred. -/
  | repetition (least : Nat) (most : Option Nat) (lazy : Bool) (sub : Tree)
  | group (capturing : Bool) (f : FlagChange) (sub : Tree)
  | alternation (branches : List Tree)
  | concat (parts : List Tree)
  deriving Inhabited

mutual

/-- The nesting of brackets, unions and operations in a set. -/
def ClassSet.depth : ClassSet → Nat
  | .union items => if items.length < 2 then itemsDepth items else itemsDepth items + 1
  | .binary _ left right => max left.depth right.depth + 1

/-- The nesting in an item of a set. -/
def ClassItem.depth : ClassItem → Nat
  | .bracketed _ inner => inner.depth + 1
  | .literal _ | .range .. | .ascii .. | .letter .. | .unicode _ => 0

/-- The greatest nesting in several items. -/
def itemsDepth : List ClassItem → Nat
  | [] => 0
  | item :: items => max item.depth (itemsDepth items)

end

mutual

/-- The nesting of repetitions, groups, alternatives, sequences and brackets. -/
def Tree.depth : Tree → Nat
  | .bracketed _ inner => inner.depth + 1
  | .repetition _ _ _ sub => sub.depth + 1
  | .group _ _ sub => sub.depth + 1
  | .alternation branches => treesDepth branches + 1
  | .concat parts => treesDepth parts + 1
  | .empty | .flags _ | .literal _ | .dot | .anchor _ | .letter .. | .unicode _ => 0

/-- The greatest nesting in several trees. -/
def treesDepth : List Tree → Nat
  | [] => 0
  | tree :: trees => max tree.depth (treesDepth trees)

end

end ContentBlocking.Regex
