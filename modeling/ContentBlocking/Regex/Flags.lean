import ContentBlocking.Regex.Basic
import ContentBlocking.Regex.Reader

/-!
# Regular expressions of syntax trees

`Context.regex?` resolves the flags, classes and literals of a syntax tree.  A tree that could match
within the bytes of a character or that uses an unknown class has no regular expression.
-/

namespace ContentBlocking.Regex

/-- The flags in force. -/
structure Flags where
  caseInsensitive : Bool
  multiLine : Bool
  dotMatchesNewLine : Bool
  swapGreed : Bool
  unicode : Bool
  crlf : Bool
  deriving DecidableEq, Repr

/-- The flags at the start of a pattern. -/
def Flags.initial : Flags := ⟨false, false, false, false, true, false⟩

/-- The flags after a change. -/
def Flags.change (flags : Flags) (f : FlagChange) : Flags :=
  { caseInsensitive := (f.setting? .caseInsensitive).getD flags.caseInsensitive
    multiLine := (f.setting? .multiLine).getD flags.multiLine
    dotMatchesNewLine := (f.setting? .dotMatchesNewLine).getD flags.dotMatchesNewLine
    swapGreed := (f.setting? .swapGreed).getD flags.swapGreed
    unicode := (f.setting? .unicode).getD flags.unicode
    crlf := (f.setting? .crlf).getD flags.crlf }

/-- The characters of ASCII. -/
def ascii : CharSet := .range 0 0x7F

/-- A set of bytes beyond ASCII could match within a character and is refused. -/
def onlyAscii? (s : CharSet) : Option CharSet :=
  if s.isAscii then some s else none

/-- A set with both cases of its letters if the flags ask for them. -/
def Flags.fold (flags : Flags) (s : CharSet) : CharSet :=
  if !flags.caseInsensitive then s
  else if flags.unicode then s.caseClosure
  else s.caseClosure.inter ascii

/-- A set negated if asked for; bytes that are negated are among all bytes. -/
def Flags.negate? (flags : Flags) (negated : Bool) (s : CharSet) : Option CharSet :=
  if flags.unicode then some (if negated then s.complement else s)
  else onlyAscii? (if negated then (CharSet.range 0 0xFF).diff s else s)

/-- A set in the mode of the flags: with both cases of its letters, then negated if asked for. -/
def Flags.foldAndNegate? (flags : Flags) (negated : Bool) (s : CharSet) : Option CharSet :=
  flags.negate? negated (flags.fold s)

/-- The set of a class of one letter. -/
def Flags.letterSet? (flags : Flags) (negated : Bool) (name : LetterClass) : Option CharSet :=
  flags.negate? negated <|
    match name, flags.unicode with
    | .digit, true => CharSet.digit
    | .digit, false => .range 0x30 0x39
    | .space, true => CharSet.space
    | .space, false => ⟨[(9, 13), (32, 32)]⟩
    | .word, true => CharSet.word
    | .word, false => CharSet.asciiWord

/-- The set of a class with a name between colons. -/
def AsciiClass.set : AsciiClass → CharSet
  | .alnum => ⟨[(0x30, 0x39), (0x41, 0x5A), (0x61, 0x7A)]⟩
  | .alpha => ⟨[(0x41, 0x5A), (0x61, 0x7A)]⟩
  | .ascii => ⟨[(0, 0x7F)]⟩
  | .blank => ⟨[(9, 9), (0x20, 0x20)]⟩
  | .cntrl => ⟨[(0, 0x1F), (0x7F, 0x7F)]⟩
  | .digit => ⟨[(0x30, 0x39)]⟩
  | .graph => ⟨[(0x21, 0x7E)]⟩
  | .lower => ⟨[(0x61, 0x7A)]⟩
  | .print => ⟨[(0x20, 0x7E)]⟩
  | .punct => ⟨[(0x21, 0x2F), (0x3A, 0x40), (0x5B, 0x60), (0x7B, 0x7E)]⟩
  | .space => ⟨[(9, 13), (0x20, 0x20)]⟩
  | .upper => ⟨[(0x41, 0x5A)]⟩
  | .word => CharSet.asciiWord
  | .xdigit => ⟨[(0x30, 0x39), (0x41, 0x46), (0x61, 0x66)]⟩

/-- The set of a class named by Unicode, which bytes cannot match. -/
def Flags.unicodeSet? (flags : Flags) (c : UnicodeClass) : Option CharSet :=
  if flags.unicode then do
    let s ← match c.value with
      | none => CharSet.named? c.name
      | some value => CharSet.valued? c.name value
    flags.foldAndNegate? c.negated s
  else none

/-- The code of a literal in a set; without Unicode it must be in ASCII. -/
def Flags.setCode? (flags : Flags) (l : Literal) : Option Nat :=
  if flags.unicode || l.char.toNat < 0x80 then some l.char.toNat else none

mutual

/-- The characters of a set in square brackets. -/
def Flags.classSet? (flags : Flags) : ClassSet → Option CharSet
  | .union items => flags.itemsSet? items
  | .binary op left right => do
    let left := flags.fold (← flags.classSet? left)
    let right := flags.fold (← flags.classSet? right)
    match op with
    | .intersection => return left.inter right
    | .difference => return left.diff right
    | .symmetricDifference => return left.symmDiff right

/-- The characters of an item of a set. -/
def Flags.itemSet? (flags : Flags) : ClassItem → Option CharSet
  | .literal l => do
    let n ← flags.setCode? l
    return .range n n
  | .range first last => do return .range (← flags.setCode? first) (← flags.setCode? last)
  | .ascii negated name => flags.foldAndNegate? negated name.set
  | .letter negated name => flags.letterSet? negated name
  | .unicode c => flags.unicodeSet? c
  | .bracketed negated inner => do flags.foldAndNegate? negated (← flags.classSet? inner)

/-- The characters of several items. -/
def Flags.itemsSet? (flags : Flags) : List ClassItem → Option CharSet
  | [] => some .empty
  | item :: items => do return (← flags.itemSet? item).union (← flags.itemsSet? items)

end

/-- One character of a set in the mode of the flags. -/
def Flags.ofSet (flags : Flags) (s : CharSet) : Regex := .ofSet (!flags.unicode) s

/-- The regular expression of a literal. -/
def Flags.literal? (flags : Flags) (l : Literal) : Option Regex :=
  if !flags.unicode && l.isByte && 0x80 ≤ l.char.toNat then none
  else if flags.caseInsensitive && (flags.unicode || l.char.isAlpha) then
    some (flags.ofSet (flags.fold (.single l.char)))
  else some (.literal [l.char])

/-- The characters that a dot matches, which cannot be bytes. -/
def Flags.dot? (flags : Flags) : Option CharSet :=
  if !flags.unicode then none
  else if flags.dotMatchesNewLine then some .all
  else if flags.crlf then some (CharSet.complement ⟨[(10, 10), (13, 13)]⟩)
  else some (CharSet.complement ⟨[(10, 10)]⟩)

/-- The condition of an anchor. -/
def Flags.look (flags : Flags) (a : Anchor) : Look :=
  let word := if flags.unicode then CharSet.word else CharSet.asciiWord
  match a with
  | .lineStart =>
    if !flags.multiLine then .textStart else if flags.crlf then .lineStartCrlf else .lineStart
  | .lineEnd =>
    if !flags.multiLine then .textEnd else if flags.crlf then .lineEndCrlf else .lineEnd
  | .textStart => .textStart
  | .textEnd => .textEnd
  | .wordBoundary => .word word false true true false
  | .notWordBoundary => .word word true false false true
  | .wordStart => .word word false true false false
  | .wordEnd => .word word false false true false
  | .wordStartHalf => .word word true true false false
  | .wordEndHalf => .word word true false true false

/-- What the meaning of a tree depends on: the flags in force, and how many groups came before. -/
structure Context where
  flags : Flags
  groups : Nat

mutual

/-- The regular expression of a tree, and the context after it. -/
def Context.regex? (c : Context) : Tree → Option (Regex × Context)
  | .empty => some (.empty, c)
  | .flags f => some (.empty, { c with flags := c.flags.change f })
  | .literal l => (c.flags.literal? l).map (·, c)
  | .dot => c.flags.dot?.map fun s => (c.flags.ofSet s, c)
  | .anchor a => some (.look (c.flags.look a), c)
  | .letter negated name => (c.flags.letterSet? negated name).map fun s => (c.flags.ofSet s, c)
  | .unicode u => (c.flags.unicodeSet? u).map fun s => (c.flags.ofSet s, c)
  | .bracketed negated inner => do
    let s ← c.flags.foldAndNegate? negated (← c.flags.classSet? inner)
    return (c.flags.ofSet s, c)
  | .repetition least most lazy sub => do
    let (r, c) ← c.regex? sub
    return (.repeated least most (lazy != c.flags.swapGreed) r, c)
  | .group capturing f sub => do
    let groups := if capturing then c.groups + 1 else c.groups
    let (r, after) ← Context.regex? ⟨c.flags.change f, groups⟩ sub
    return (if capturing then .group groups r else r, { after with flags := c.flags })
  | .alternation branches => do
    let (rs, c) ← c.regexes? branches
    return (.choice rs, c)
  | .concat parts => do
    let (rs, c) ← c.regexes? parts
    return (.sequence rs, c)

/-- The regular expressions of several trees, each in the context after the one before. -/
def Context.regexes? (c : Context) : List Tree → Option (List Regex × Context)
  | [] => some ([], c)
  | tree :: trees => do
    let (r, c) ← c.regex? tree
    let (rs, c) ← c.regexes? trees
    return (r :: rs, c)

end

end ContentBlocking.Regex
