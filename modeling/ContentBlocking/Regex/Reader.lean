import ContentBlocking.Regex.Tree
import ContentBlocking.Unicode.CharSet.Named

/-!
# Reading regular expressions

`Tree.ofText?` reads the syntax of regular expressions: literals and escapes, classes and the
operations on them, groups with names and flags, repetitions with counts, and a verbose mode in
which blanks and comments are skipped.  A text that breaks a rule of the syntax has no tree.
-/

namespace ContentBlocking.Regex

/-- What the reading of a pattern depends on besides the text. -/
structure Mode where
  /-- Blanks and comments are skipped. -/
  verbose : Bool
  /-- The names of the groups so far. -/
  names : List (List Char)

/-- A text without blanks and comments at its start. -/
def skipVerbose : List Char → List Char
  | [] => []
  | c :: cs =>
    if Text.isBlank c then skipVerbose cs
    else if c = '#' then skipComment cs
    else c :: cs
where
  /-- A text from behind the line feed that ends a comment. -/
  skipComment : List Char → List Char
    | [] => []
    | c :: cs => if c = '\n' then skipVerbose cs else skipComment cs

/-- A text from its next significant character on. -/
def Mode.skip (m : Mode) (cs : List Char) : List Char :=
  if m.verbose then skipVerbose cs else cs

/-- A character with a meaning of its own. -/
def isMeta (c : Char) : Bool :=
  "\\.+*?()|[]\x7b\x7d^$#&-~".toList.contains c

/-- A character that may be escaped although it need not be: ASCII but no letter, digit or angle. -/
def isEscapable (c : Char) : Bool :=
  isMeta c || c.toNat < 0x80 && !(c.isAlphanum || c == '<' || c == '>')

/-! ### Numbers -/

/-- The decimal digits at the start of a text, and the text after them and after skipped blanks. -/
def Mode.spanCount (m : Mode) : Nat → List Char → List Char × List Char
  | 0, cs => ([], cs)
  | fuel + 1, c :: cs =>
    if c.isDigit then
      let (digits, rest) := m.spanCount fuel (m.skip cs)
      (c :: digits, rest)
    else ([], c :: cs)
  | _ + 1, [] => ([], [])

/-- A count of a repetition, with blanks around it; the inner result is none if it has no digits. -/
def Mode.readCount? (m : Mode) (cs : List Char) : Option (Option Nat × List Char) :=
  let cs := cs.dropWhile Text.isBlank
  let (digits, rest) := m.spanCount cs.length cs
  let rest := skipBlanks m rest.length rest
  if digits = [] then some (none, rest) else
  let n := Json.Numeral.natOfDigits digits
  if n < 0x100000000 then some (some n, rest) else none
where
  /-- A text without blanks at its start, and without comments in verbose mode. -/
  skipBlanks (m : Mode) : Nat → List Char → List Char
    | 0, cs => cs
    | fuel + 1, cs =>
      match cs with
      | c :: rest => if Text.isBlank c then skipBlanks m fuel (m.skip rest) else cs
      | [] => []

/-- The bounds of a counted repetition from behind its opening brace. -/
def Mode.readBounds? (m : Mode) (cs : List Char) : Option ((Nat × Option Nat) × List Char) := do
  let (least, rest) ← m.readCount? (m.skip cs)
  let least ← least
  match rest with
  | ',' :: rest =>
    match m.skip rest with
    | '\x7d' :: rest => some ((least, none), rest)
    | rest =>
      let (most, rest) ← m.readCount? rest
      let most ← most
      match rest with
      | '\x7d' :: rest => if least ≤ most then some ((least, some most), rest) else none
      | _ => none
  | '\x7d' :: rest => some ((least, some least), rest)
  | _ => none

/-! ### Escapes -/

/-- The character with a code. -/
def charOfCode? (n : Nat) : Option Char :=
  if h : n.isValidChar then some (Char.ofNatAux n h) else none

/-- Exactly `n` hexadecimal digits. -/
def Mode.readHexDigits? (m : Mode) : Nat → List Char → Option (List Char × List Char)
  | 0, cs => some ([], cs)
  | n + 1, c :: cs => do
    let _ ← Json.hexDigit? c
    let (digits, rest) ← m.readHexDigits? n (m.skip cs)
    return (c :: digits, rest)
  | _ + 1, [] => none

/-- Hexadecimal digits up to a closing brace. -/
def Mode.readHexBrace? (m : Mode) : Nat → List Char → Option (List Char × List Char)
  | 0, _ => none
  | _ + 1, '\x7d' :: rest => some ([], m.skip rest)
  | fuel + 1, c :: cs => do
    let _ ← Json.hexDigit? c
    let (digits, rest) ← m.readHexBrace? fuel (m.skip cs)
    return (c :: digits, rest)
  | _ + 1, [] => none

/-- A character by its number, from behind the letter that announces `digits` digits. -/
def Mode.readHex? (m : Mode) (digits : Nat) (cs : List Char) : Option (Literal × List Char) :=
  match m.skip cs with
  | '\x7b' :: rest => do
    let rest := m.skip rest
    let (ds, rest) ← m.readHexBrace? (rest.length + 1) rest
    if ds = [] then none
    let c ← charOfCode? (Unicode.natOfHex ds)
    return (⟨c, false⟩, rest)
  | rest => do
    let (ds, rest) ← m.readHexDigits? digits rest
    let c ← charOfCode? (Unicode.natOfHex ds)
    return (⟨c, digits == 2⟩, rest)

/-- The characters of a name up to a closing brace. -/
def Mode.readName? (m : Mode) : Nat → List Char → Option (List Char × List Char)
  | 0, _ => none
  | _ + 1, '\x7d' :: rest => some ([], rest)
  | fuel + 1, c :: cs => do
    let (name, rest) ← m.readName? fuel (m.skip cs)
    return (c :: name, rest)
  | _ + 1, [] => none

/-- A text cut at the first occurrence of a separator, which is dropped. -/
def cutAt? (sep : List Char) : List Char → Option (List Char × List Char)
  | [] => none
  | c :: cs =>
    if sep.isPrefixOf (c :: cs) then some ([], (c :: cs).drop sep.length)
    else (cutAt? sep cs).map fun (before, after) => (c :: before, after)

/-- The class that a name in braces stands for. -/
def UnicodeClass.ofName (negated : Bool) (name : List Char) : UnicodeClass :=
  match cutAt? ['!', '='] name with
  | some (property, value) => ⟨!negated, property, some value⟩
  | none =>
    match (cutAt? [':'] name).or (cutAt? ['='] name) with
    | some (property, value) => ⟨negated, property, some value⟩
    | none => ⟨negated, name, none⟩

/-- A class named by Unicode, from behind its letter. -/
def Mode.readUnicodeClass? (m : Mode) (negated : Bool) (cs : List Char) :
    Option (UnicodeClass × List Char) :=
  match m.skip cs with
  | [] => none
  | '\x7b' :: rest => do
    let rest := m.skip rest
    let (name, rest) ← m.readName? (rest.length + 1) rest
    return (.ofName negated name, rest)
  | '\\' :: _ => none
  | c :: rest => some (⟨negated, [c], none⟩, m.skip rest)

/-- The word boundary that a name in braces stands for. -/
def specialBoundary? (name : List Char) : Option Anchor :=
  if name = "start".toList then some .wordStart
  else if name = "end".toList then some .wordEnd
  else if name = "start-half".toList then some .wordStartHalf
  else if name = "end-half".toList then some .wordEndHalf
  else none

/-- A letter or hyphen, of which the names of word boundaries consist. -/
def isBoundaryChar (c : Char) : Bool := c.isAlpha || c == '-'

/-- The letters and hyphens at the start of a text. -/
def Mode.spanBoundary (m : Mode) : Nat → List Char → List Char × List Char
  | 0, cs => ([], cs)
  | fuel + 1, cs =>
    match cs with
    | c :: rest =>
      if isBoundaryChar c then
        let (name, rest) := m.spanBoundary fuel (m.skip rest)
        (c :: name, rest)
      else ([], cs)
    | [] => ([], [])

/-- The word boundary after its letter; a brace that no letter or hyphen follows is a count. -/
def Mode.readBoundary? (m : Mode) (cs : List Char) : Option (Anchor × List Char) :=
  match cs with
  | '\x7b' :: rest =>
    match m.skip rest with
    | [] => none
    | c :: rest =>
      if isBoundaryChar c then
        match m.spanBoundary (rest.length + 1) (c :: rest) with
        | (name, '\x7d' :: rest) => (specialBoundary? name).map fun a => (a, rest)
        | _ => none
      else some (.wordBoundary, cs)
  | _ => some (.wordBoundary, cs)

/-- One item outside of square brackets, or the first item of a range inside. -/
inductive Primitive
  | literal (l : Literal)
  | dot
  | anchor (a : Anchor)
  | letter (negated : Bool) (name : LetterClass)
  | unicode (c : UnicodeClass)

/-- An escape from behind its backslash. -/
def Mode.readEscape? (m : Mode) : List Char → Option (Primitive × List Char)
  | [] => none
  | c :: rest =>
    match c with
    | 'x' => (m.readHex? 2 rest).map fun (l, rest) => (.literal l, rest)
    | 'u' => (m.readHex? 4 rest).map fun (l, rest) => (.literal l, rest)
    | 'U' => (m.readHex? 8 rest).map fun (l, rest) => (.literal l, rest)
    | 'p' => (m.readUnicodeClass? false rest).map fun (u, rest) => (.unicode u, rest)
    | 'P' => (m.readUnicodeClass? true rest).map fun (u, rest) => (.unicode u, rest)
    | 'd' => some (.letter false .digit, rest)
    | 'D' => some (.letter true .digit, rest)
    | 's' => some (.letter false .space, rest)
    | 'S' => some (.letter true .space, rest)
    | 'w' => some (.letter false .word, rest)
    | 'W' => some (.letter true .word, rest)
    | 'a' => some (.literal ⟨'\x07', false⟩, rest)
    | 'f' => some (.literal ⟨'\x0c', false⟩, rest)
    | 't' => some (.literal ⟨'\t', false⟩, rest)
    | 'n' => some (.literal ⟨'\n', false⟩, rest)
    | 'r' => some (.literal ⟨'\r', false⟩, rest)
    | 'v' => some (.literal ⟨'\x0b', false⟩, rest)
    | 'A' => some (.anchor .textStart, rest)
    | 'z' => some (.anchor .textEnd, rest)
    | 'b' => (m.readBoundary? rest).map fun (a, rest) => (.anchor a, rest)
    | 'B' => some (.anchor .notWordBoundary, rest)
    | '<' => some (.anchor .wordStart, rest)
    | '>' => some (.anchor .wordEnd, rest)
    | c => if isEscapable c then some (.literal ⟨c, false⟩, rest) else none

/-! ### Square brackets -/

/-- The class that a name between colons stands for. -/
def AsciiClass.ofName? (name : List Char) : Option AsciiClass :=
  (["alnum", "alpha", "ascii", "blank", "cntrl", "digit", "graph", "lower", "print", "punct",
    "space", "upper", "word", "xdigit"].zip
    [alnum, alpha, ascii, blank, cntrl, digit, graph, lower, print, punct, space, upper, word,
      xdigit]).lookup (String.ofList name)

/-- A class with a name between colons, from behind its opening bracket. -/
def readAsciiClass? (cs : List Char) : Option (ClassItem × List Char) :=
  match cs with
  | ':' :: rest =>
    let (negated, rest) :=
      match rest with
      | '^' :: rest => (true, rest)
      | rest => (false, rest)
    match rest.dropWhile (· != ':') with
    | ':' :: ']' :: after =>
      (AsciiClass.ofName? (rest.takeWhile (· != ':'))).map fun name => (.ascii negated name, after)
    | _ => none
  | _ => none

/-- One item of a set. -/
def Mode.readSetPrimitive? (m : Mode) : List Char → Option (Primitive × List Char)
  | [] => none
  | '\\' :: rest => m.readEscape? rest
  | c :: rest => some (.literal ⟨c, false⟩, rest)

/-- An item of a set that is no range. -/
def Primitive.item? : Primitive → Option ClassItem
  | .literal l => some (.literal l)
  | .letter negated name => some (.letter negated name)
  | .unicode c => some (.unicode c)
  | .dot | .anchor _ => none

/-- The character by which a hyphen after an item of a set is told from the start of a range, given
what follows the hyphen.  In verbose mode blanks and the sign of one comment are passed over, but
not what the comment says. -/
def Mode.peekBehindHyphen (m : Mode) (cs : List Char) : Option Char :=
  if m.verbose then
    match cs.dropWhile Text.isBlank with
    | '#' :: comment => (comment.dropWhile Text.isBlank).head?.or cs.head?
    | rest => rest.head?.or cs.head?
  else cs.head?

/-- An item of a set or a range of two. -/
def Mode.readSetItem? (m : Mode) (cs : List Char) : Option (ClassItem × List Char) := do
  let (first, rest) ← m.readSetPrimitive? cs
  match m.skip rest with
  | [] => none
  | '-' :: after =>
    let next := m.peekBehindHyphen after
    if next = some ']' ∨ next = some '-' then return (← first.item?, '-' :: after)
    let (last, rest) ← m.readSetPrimitive? (m.skip after)
    match first, last with
    | .literal first, .literal last =>
      if first.char ≤ last.char then return (.range first last, rest) else none
    | _, _ => none
  | rest => return (← first.item?, rest)

/-- The hyphens at the start of a set, which stand for themselves. -/
def Mode.readHyphens (m : Mode) : Nat → List Char → List ClassItem × List Char
  | 0, cs => ([], cs)
  | fuel + 1, cs =>
    match cs with
    | '-' :: rest =>
      let (items, rest) := m.readHyphens fuel (m.skip rest)
      (.literal ⟨'-', false⟩ :: items, rest)
    | _ => ([], cs)

/-- The start of a set from behind its opening bracket: whether it is negated, the hyphens or the
closing bracket that stand for themselves in front, and what follows. -/
def Mode.openSet? (m : Mode) (cs : List Char) : Option (Bool × List ClassItem × List Char) :=
  let cs := m.skip cs
  let (negated, cs) :=
    match cs with
    | '^' :: rest => (true, m.skip rest)
    | cs => (false, cs)
  let (items, cs) := m.readHyphens cs.length cs
  match items, cs with
  | _, [] => none
  | [], ']' :: rest =>
    match m.skip rest with
    | [] => none
    | rest => some (negated, [.literal ⟨']', false⟩], rest)
  | items, rest => some (negated, items.reverse, rest)

/-- The set of the items so far, joined by the operation that waits for it. -/
def closeOperand (left : Option (ClassOp × ClassSet)) (items : List ClassItem) : ClassSet :=
  match left with
  | none => .union items.reverse
  | some (op, operand) => .binary op operand (.union items.reverse)

/-- The rest of a set after some `items`, the last one first, and after an operation with its left
operand. -/
def Mode.readSet? (m : Mode) : Nat → Option (ClassOp × ClassSet) → List ClassItem → List Char →
    Option (ClassSet × List Char)
  | 0, _, _, _ => none
  | fuel + 1, left, items, cs =>
    match m.skip cs with
    | [] => none
    | ']' :: rest => some (closeOperand left items, rest)
    | '[' :: rest =>
      match readAsciiClass? rest with
      | some (item, rest) => m.readSet? fuel left (item :: items) rest
      | none => do
        let (negated, front, rest) ← m.openSet? rest
        let (inner, rest) ← m.readSet? fuel none front rest
        m.readSet? fuel left (.bracketed negated inner :: items) rest
    | '&' :: '&' :: rest => m.readSet? fuel (some (.intersection, closeOperand left items)) [] rest
    | '-' :: '-' :: rest => m.readSet? fuel (some (.difference, closeOperand left items)) [] rest
    | '~' :: '~' :: rest =>
      m.readSet? fuel (some (.symmetricDifference, closeOperand left items)) [] rest
    | cs => do
      let (item, rest) ← m.readSetItem? cs
      m.readSet? fuel left (item :: items) rest

/-! ### Groups -/

/-- The flag of a letter. -/
def Flag.ofChar? : Char → Option Flag
  | 'i' => some .caseInsensitive
  | 'm' => some .multiLine
  | 's' => some .dotMatchesNewLine
  | 'U' => some .swapGreed
  | 'u' => some .unicode
  | 'R' => some .crlf
  | 'x' => some .ignoreSpace
  | _ => none

/-- The flags up to a colon or a closing parenthesis, each at most once, and those after one hyphen
switched off; a hyphen needs a flag after it. -/
def readFlags? (change : FlagChange) (negated dangling : Bool) :
    List Char → Option (FlagChange × List Char)
  | [] => none
  | c :: rest =>
    if c = ':' ∨ c = ')' then if dangling then none else some (change, c :: rest)
    else if c = '-' then if negated then none else readFlags? change true true rest
    else
      match Flag.ofChar? c with
      | none => none
      | some flag =>
        if (change.setting? flag).isSome then none
        else if negated then readFlags? { change with off := flag :: change.off } true false rest
        else readFlags? { change with on := flag :: change.on } false false rest

/-- A character of a group name; the first one is a letter or an underscore. -/
def isNameChar (first : Bool) (c : Char) : Bool :=
  c == '_' ||
    if first then CharSet.alphabetic.contains c
    else c == '.' || c == '[' || c == ']' || CharSet.alphanumeric.contains c

/-- The name of a group from behind its opening angle. -/
def readGroupName? (cs : List Char) : Option (List Char × List Char) :=
  let name := cs.takeWhile (· != '>')
  match name, cs.dropWhile (· != '>') with
  | first :: others, _ :: rest =>
    if isNameChar true first && others.all (isNameChar false) then some (name, rest) else none
  | _, _ => none

/-- What an opening parenthesis begins. -/
inductive Opening
  /-- Flags for the rest of the group around it. -/
  | flags (change : FlagChange)
  /-- A group. -/
  | group (capturing : Bool) (change : FlagChange)

/-- What an opening parenthesis begins, from behind it. -/
def Mode.readOpening? (m : Mode) (cs : List Char) : Option (Opening × Mode × List Char) :=
  let named (rest : List Char) : Option (Opening × Mode × List Char) := do
    let (name, rest) ← readGroupName? rest
    if name ∈ m.names then none
    return (.group true ⟨[], []⟩, { m with names := name :: m.names }, rest)
  match m.skip cs with
  | '?' :: rest =>
    match rest with
    | '=' :: _ | '!' :: _ | '<' :: '=' :: _ | '<' :: '!' :: _ => none
    | 'P' :: '<' :: rest => named rest
    | '<' :: rest => named rest
    | rest => do
      let (change, rest) ← readFlags? ⟨[], []⟩ false false rest
      match rest with
      | ')' :: rest =>
        if change.on = [] ∧ change.off = [] then none
        return (.flags change, m, rest)
      | _ :: rest => return (.group false change, m, rest)
      | [] => none
  | rest => some (.group true ⟨[], []⟩, m, rest)

/-- The mode after a change of flags. -/
def Mode.change (m : Mode) (f : FlagChange) : Mode :=
  { m with verbose := (f.setting? .ignoreSpace).getD m.verbose }

/-! ### Patterns -/

/-- Several parts in a row, the last one first. -/
def concatOf : List Tree → Tree
  | [] => .empty
  | [part] => part
  | parts => .concat parts.reverse

/-- The branches of a pattern, the last one first, of which the last is given by its parts. -/
def alternationOf (branches parts : List Tree) : Tree :=
  match branches with
  | [] => concatOf parts
  | branches => .alternation (concatOf parts :: branches).reverse

/-- A tree that can be repeated. -/
def Tree.isRepeatable : Tree → Bool
  | .empty | .flags _ => false
  | _ => true

/-- The tree of an item. -/
def Primitive.tree : Primitive → Tree
  | .literal l => .literal l
  | .dot => .dot
  | .anchor a => .anchor a
  | .letter negated name => .letter negated name
  | .unicode c => .unicode c

/-- An item outside of square brackets. -/
def Mode.readPrimitive? (m : Mode) : List Char → Option (Primitive × List Char)
  | [] => none
  | '\\' :: rest => m.readEscape? rest
  | '.' :: rest => some (.dot, rest)
  | '^' :: rest => some (.anchor .lineStart, rest)
  | '$' :: rest => some (.anchor .lineEnd, rest)
  | c :: rest => some (.literal ⟨c, false⟩, rest)

/-- The bounds of a repetition at the start of a text, without its mark of laziness. -/
def Mode.readRepetition? (m : Mode) : List Char → Option ((Nat × Option Nat) × List Char)
  | '?' :: rest => some ((0, some 1), rest)
  | '*' :: rest => some ((0, none), rest)
  | '+' :: rest => some ((1, none), rest)
  | '\x7b' :: rest => do
    let (bounds, rest) ← m.readBounds? rest
    return (bounds, m.skip rest)
  | _ => none

/-- Whether the mark of a lazy repetition stands at the start of a text, and what follows it. -/
def readLazy : List Char → Bool × List Char
  | '?' :: rest => (true, rest)
  | rest => (false, rest)

/-- The rest of a group after some `parts` of its last branch and after its finished `branches`,
both the last one first; it ends before a closing parenthesis or with the text. -/
def Mode.readBranches? : Nat → Mode → List Tree → List Tree → List Char →
    Option (Tree × Mode × List Char)
  | 0, _, _, _, _ => none
  | fuel + 1, m, branches, parts, cs =>
    match m.skip cs with
    | [] => some (alternationOf branches parts, m, [])
    | ')' :: rest => some (alternationOf branches parts, m, ')' :: rest)
    | '|' :: rest => readBranches? fuel m (concatOf parts :: branches) [] rest
    | '(' :: rest => do
      let (opening, inner, rest) ← m.readOpening? rest
      match opening with
      | .flags f => readBranches? fuel (inner.change f) branches (.flags f :: parts) rest
      | .group capturing f =>
        match ← readBranches? fuel (inner.change f) [] [] rest with
        | (sub, inner, ')' :: rest) =>
          readBranches? fuel { inner with verbose := m.verbose } branches
            (.group capturing f sub :: parts) rest
        | _ => none
    | '[' :: rest => do
      let (negated, front, rest) ← m.openSet? rest
      let (inner, rest) ← m.readSet? (rest.length + 1) none front rest
      readBranches? fuel m branches (.bracketed negated inner :: parts) rest
    | c :: rest =>
      if c = '?' ∨ c = '*' ∨ c = '+' ∨ c = '\x7b' then
        match parts with
        | [] => none
        | part :: parts =>
          if part.isRepeatable then do
            let ((least, most), rest) ← m.readRepetition? (c :: rest)
            let (lazy, rest) := readLazy rest
            readBranches? fuel m branches (.repetition least most lazy part :: parts) rest
          else none
      else do
        let (item, rest) ← m.readPrimitive? (c :: rest)
        readBranches? fuel m branches (item.tree :: parts) rest

/-- Trees may be nested to this depth. -/
def maxDepth : Nat := 250

/-- The tree of a pattern, which must not leave a group open or nest too deeply. -/
def Tree.ofText? (pattern : List Char) : Option Tree :=
  match Mode.readBranches? (pattern.length + 1) ⟨false, []⟩ [] [] pattern with
  | some (tree, _, []) => if tree.depth ≤ maxDepth then some tree else none
  | _ => none

end ContentBlocking.Regex
