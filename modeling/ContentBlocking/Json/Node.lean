import ContentBlocking.Json.Numeral
import ContentBlocking.Text.Measure

/-!
# The grammar of JSON

`Node.read` takes a text to its syntax tree.  Every text has one: where the text stops being JSON
the tree holds the fault in the place where it occurs, so that a reader of the tree that goes from
left to right meets the problems of the text in their order.  What a reader makes of a numeral, an
escape or a nesting is its own affair, and the tree keeps all three as they are written.
-/

namespace ContentBlocking.Json

/-- A piece of a quoted text. -/
inductive Piece
  /-- A character, plain or escaped by one letter. -/
  | char (c : Char)
  /-- A UTF-16 unit, escaped by its number. -/
  | unit (code : Nat)
  deriving DecidableEq, Repr

/-- A quoted text, up to its closing quote or to its first fault. -/
structure Quoted where
  pieces : List Piece
  fault : Option Error
  deriving DecidableEq, Repr

/-- How an array or an object ends. -/
inductive Close
  /-- The closing bracket. -/
  | done
  /-- The end of the text. -/
  | truncated
  /-- The end of the text, after a comma. -/
  | truncatedAfterComma
  /-- A character that cannot stand there. -/
  | malformed
  /-- A first member whose name is no quoted text; `complaint` is what a reader of a name says. -/
  | stray (complaint : Error)
  deriving DecidableEq, Repr

/-- The syntax tree of a JSON text. -/
inductive Node
  /-- The text ends where a value should start. -/
  | absent
  /-- A character starts no value. -/
  | junk
  /-- A word other than `null`, `true` and `false`. -/
  | brokenWord (fault : Error)
  /-- A numeral that lacks a digit, perhaps because the text ends. -/
  | brokenNumeral (atEnd : Bool)
  | null
  | bool (b : Bool)
  | number (n : Numeral)
  | string (s : Quoted)
  | array (items : List Node) (close : Close)
  | object (members : List (Quoted × Node)) (close : Close)
  deriving Inhabited

/-- White space between the tokens of JSON. -/
def isSpace (c : Char) : Bool :=
  c == ' ' || c == '\n' || c == '\r' || c == '\t'

/-- The text from its next token on. -/
def skipSpace (cs : List Char) : List Char := cs.dropWhile isSpace

/-! ### Quoted texts -/

/-- The value of a hexadecimal digit. -/
def hexDigit? (c : Char) : Option Nat :=
  if '0' ≤ c ∧ c ≤ '9' then some (c.toNat - 48)
  else if 'a' ≤ c ∧ c ≤ 'f' then some (c.toNat - 87)
  else if 'A' ≤ c ∧ c ≤ 'F' then some (c.toNat - 55)
  else none

/-- The number that four hexadecimal digits write. -/
def hexUnit? (a b c d : Char) : Option Nat := do
  return (((← hexDigit? a) * 16 + (← hexDigit? b)) * 16 + (← hexDigit? c)) * 16 + (← hexDigit? d)

/-- The character that a one-letter escape stands for. -/
def escaped? : Char → Option Char
  | '"' => some '"'
  | '\\' => some '\\'
  | '/' => some '/'
  | 'b' => some '\x08'
  | 'f' => some '\x0c'
  | 'n' => some '\n'
  | 'r' => some '\r'
  | 't' => some '\t'
  | _ => none

/-- The fault of an escape by number that is no such escape: fewer than four bytes are left, or
they are no digits. -/
def unitFault (cs : List Char) : Error :=
  if Text.byteLength (cs.take 4) < 4 then .truncated else .malformed

/-- A quoted text from behind its opening quote, and what follows its closing quote. -/
def readQuoted : List Char → Quoted × Option (List Char)
  | [] => (⟨[], some .truncated⟩, none)
  | '"' :: rest => (⟨[], none⟩, some rest)
  | '\\' :: 'u' :: a :: b :: c :: d :: rest =>
    match hexUnit? a b c d with
    | some code =>
      let (q, after) := readQuoted rest
      (⟨.unit code :: q.pieces, q.fault⟩, after)
    | none => (⟨[], some (unitFault [a, b, c, d])⟩, none)
  | '\\' :: 'u' :: rest => (⟨[], some (unitFault rest)⟩, none)
  | ['\\'] => (⟨[], some .truncated⟩, none)
  | '\\' :: e :: rest =>
    match escaped? e with
    | some c =>
      let (q, after) := readQuoted rest
      (⟨.char c :: q.pieces, q.fault⟩, after)
    | none => (⟨[], some .malformed⟩, none)
  | c :: rest =>
    if c.toNat < 0x20 then (⟨[], some .malformed⟩, none) else
      let (q, after) := readQuoted rest
      (⟨.char c :: q.pieces, q.fault⟩, after)

/-- The characters of a quoted text: a unit is a character or half of a surrogate pair. -/
def decodePieces : List Piece → Option Error → Except Error (List Char)
  | [], none => .ok []
  | [], some e => .error e
  | .char c :: ps, f => (c :: ·) <$> decodePieces ps f
  | [.unit n], f =>
    if 0xD800 ≤ n ∧ n < 0xE000 then .error (if n < 0xDC00 then f.getD .malformed else .malformed)
    else match f with
      | none => .ok [Char.ofNat n]
      | some e => .error e
  | .unit n :: .unit m :: ps, f =>
    if 0xD800 ≤ n ∧ n < 0xDC00 then
      if 0xDC00 ≤ m ∧ m < 0xE000 then
        (Char.ofNat (0x10000 + (n - 0xD800) * 0x400 + (m - 0xDC00)) :: ·) <$> decodePieces ps f
      else .error .malformed
    else if 0xDC00 ≤ n ∧ n < 0xE000 then .error .malformed
    else (Char.ofNat n :: ·) <$> decodePieces (.unit m :: ps) f
  | .unit n :: .char c :: ps, f =>
    if 0xD800 ≤ n ∧ n < 0xE000 then .error .malformed
    else (Char.ofNat n :: ·) <$> decodePieces (.char c :: ps) f

/-- The text that a quoted text stands for. -/
def Quoted.text (q : Quoted) : Except Error String :=
  String.ofList <$> decodePieces q.pieces q.fault

/-! ### Numerals and words -/

/-- The digits at the start of a text, and what follows them. -/
def spanDigits (cs : List Char) : List Char × List Char :=
  cs.span Char.isDigit

/-- The exponent of a numeral, if it has one; none at all if it lacks a digit. -/
def readExponent (cs : List Char) : Except Bool (Option (Bool × List Char) × List Char) :=
  match cs with
  | 'e' :: rest | 'E' :: rest =>
    let (negative, rest) :=
      match rest with
      | '-' :: rest => (true, rest)
      | '+' :: rest => (false, rest)
      | rest => (false, rest)
    match spanDigits rest with
    | ([], rest) => .error rest.isEmpty
    | (digits, rest) => .ok (some (negative, digits), rest)
  | rest => .ok (none, rest)

/-- The fraction of a numeral, if it has one. -/
def readFraction (cs : List Char) : Except Bool (List Char × List Char) :=
  match cs with
  | '.' :: rest =>
    match spanDigits rest with
    | ([], rest) => .error rest.isEmpty
    | (digits, rest) => .ok (digits, rest)
  | rest => .ok ([], rest)

/-- The digits before the point of a numeral: a zero stands alone. -/
def readWhole (cs : List Char) : Except Bool (List Char × List Char) :=
  match spanDigits cs with
  | ([], rest) => .error rest.isEmpty
  | ('0' :: _ :: _, _) => .error false
  | (digits, rest) => .ok (digits, rest)

/-- The numeral at the start of a text; the error tells whether the text ends in it. -/
def readNumeral (cs : List Char) : Except Bool (Numeral × List Char) := do
  let (negative, rest) :=
    match cs with
    | '-' :: rest => (true, rest)
    | rest => (false, rest)
  let (whole, rest) ← readWhole rest
  let (fraction, rest) ← readFraction rest
  let (exponent, rest) ← readExponent rest
  return (⟨negative, whole, fraction, exponent⟩, rest)

/-- The rest of a word that has begun. -/
def readWord : List Char → List Char → Except Error (List Char)
  | [], rest => .ok rest
  | _ :: _, [] => .error .truncated
  | w :: ws, c :: cs => if c = w then readWord ws cs else .error .malformed

/-! ### Values -/

/-- What a reader says who expected a value of another type. -/
def Node.mismatch : Node → Error
  | .absent => .truncated
  | .junk => .malformed
  | .brokenWord e => e
  | .brokenNumeral atEnd => if atEnd then .truncated else .malformed
  | .number n => match n.value with
    | .ok _ => .mismatched
    | .error e => e
  | .string s => match s.text with
    | .ok _ => .mismatched
    | .error e => e
  | .null | .bool _ | .array .. | .object .. => .mismatched

/-- A word in the place of a value. -/
def readWordNode (word : List Char) (value : Node) (cs : List Char) : Node × Option (List Char) :=
  match readWord word cs with
  | .ok rest => (value, some rest)
  | .error e => (.brokenWord e, none)

mutual

/-- The value at the start of a text, and what follows it unless it is faulty; every step into an
array or object uses one unit of `fuel`. -/
def readNode : Nat → List Char → Node × Option (List Char)
  | 0, _ => (.junk, none)
  | fuel + 1, cs =>
    match skipSpace cs with
    | [] => (.absent, none)
    | 'n' :: rest => readWordNode ['u', 'l', 'l'] .null rest
    | 't' :: rest => readWordNode ['r', 'u', 'e'] (.bool true) rest
    | 'f' :: rest => readWordNode ['a', 'l', 's', 'e'] (.bool false) rest
    | '"' :: rest =>
      let (q, after) := readQuoted rest
      (.string q, after)
    | '[' :: rest =>
      match skipSpace rest with
      | [] => (.array [] .truncated, none)
      | ']' :: rest => (.array [] .done, some rest)
      | rest =>
        let (items, close, after) := readItems fuel rest
        (.array items close, after)
    | '{' :: rest =>
      match skipSpace rest with
      | [] => (.object [] .truncated, none)
      | '}' :: rest => (.object [] .done, some rest)
      | '"' :: rest =>
        let (members, close, after) := readMembers fuel rest
        (.object members close, after)
      | rest => (.object [] (.stray (readNode fuel rest).1.mismatch), none)
    | c :: rest =>
      if c = '-' ∨ c.isDigit then
        match readNumeral (c :: rest) with
        | .ok (n, rest) => (.number n, some rest)
        | .error atEnd => (.brokenNumeral atEnd, none)
      else (.junk, none)

/-- The items of an array from the first one on, and how the array ends. -/
def readItems : Nat → List Char → List Node × Close × Option (List Char)
  | 0, _ => ([.junk], .malformed, none)
  | fuel + 1, cs =>
    match readNode fuel cs with
    | (item, none) => ([item], .malformed, none)
    | (item, some rest) =>
      match skipSpace rest with
      | [] => ([item], .truncated, none)
      | ']' :: rest => ([item], .done, some rest)
      | ',' :: rest =>
        match skipSpace rest with
        | [] => ([item], .truncatedAfterComma, none)
        | ']' :: _ => ([item], .malformed, none)
        | rest =>
          let (items, close, after) := readItems fuel rest
          (item :: items, close, after)
      | _ => ([item], .malformed, none)

/-- The members of an object from behind the first quote on, and how the object ends. -/
def readMembers : Nat → List Char → List (Quoted × Node) × Close × Option (List Char)
  | 0, _ => ([], .malformed, none)
  | fuel + 1, cs =>
    match readQuoted cs with
    | (name, none) => ([(name, .absent)], .malformed, none)
    | (name, some rest) =>
      match skipSpace rest with
      | [] => ([(name, .absent)], .malformed, none)
      | ':' :: rest =>
        match readNode fuel rest with
        | (value, none) => ([(name, value)], .malformed, none)
        | (value, some rest) =>
          match skipSpace rest with
          | [] => ([(name, value)], .truncated, none)
          | '}' :: rest => ([(name, value)], .done, some rest)
          | ',' :: rest =>
            match skipSpace rest with
            | [] => ([(name, value)], .truncatedAfterComma, none)
            | '"' :: rest =>
              let (members, close, after) := readMembers fuel rest
              ((name, value) :: members, close, after)
            | _ => ([(name, value)], .malformed, none)
          | _ => ([(name, value)], .malformed, none)
      | _ => ([(name, .junk)], .malformed, none)

end

/-- The value of a text, and whether anything but white space follows it. -/
structure Document where
  root : Node
  trailing : Bool

/-- The syntax tree of a text; two units of fuel for each character are enough. -/
def Document.read (text : String) : Document :=
  let cs := text.toList
  match readNode (2 * cs.length + 2) cs with
  | (root, none) => ⟨root, false⟩
  | (root, some rest) => ⟨root, !(skipSpace rest).isEmpty⟩

end ContentBlocking.Json
