import ContentBlocking.Json.Numeral

/-!
# Writing values

`Value.compact` writes a value without white space, `Value.pretty` with one member or item a line.
-/

namespace ContentBlocking.Json

/-- The small hexadecimal digit of a number below sixteen. -/
def hexChar (n : Nat) : Char :=
  Char.ofNat (if n < 10 then 48 + n else 87 + n)

/-- A character inside a quoted text. -/
def escape (c : Char) : List Char :=
  match c with
  | '"' => ['\\', '"']
  | '\\' => ['\\', '\\']
  | '\x08' => ['\\', 'b']
  | '\x0c' => ['\\', 'f']
  | '\n' => ['\\', 'n']
  | '\r' => ['\\', 'r']
  | '\t' => ['\\', 't']
  | c =>
    if c.toNat < 0x20 then ['\\', 'u', '0', '0', hexChar (c.toNat / 16), hexChar (c.toNat % 16)]
    else [c]

/-- A text in quotes. -/
def quote (s : String) : List Char :=
  '"' :: s.toList.flatMap escape ++ ['"']

mutual

/-- The characters of a value without white space. -/
def Value.chars : Value → List Char
  | .null => ['n', 'u', 'l', 'l']
  | .bool true => ['t', 'r', 'u', 'e']
  | .bool false => ['f', 'a', 'l', 's', 'e']
  | .number n => n.numeral.text
  | .string s => quote s
  | .array items => '[' :: itemsChars items ++ [']']
  | .object members => '\x7b' :: membersChars members ++ ['\x7d']

/-- The items of an array with commas between them. -/
def Value.itemsChars : List Value → List Char
  | [] => []
  | [item] => item.chars
  | item :: next :: items => item.chars ++ ',' :: itemsChars (next :: items)

/-- The members of an object with commas between them. -/
def Value.membersChars : List (String × Value) → List Char
  | [] => []
  | [(name, value)] => quote name ++ ':' :: value.chars
  | (name, value) :: next :: members =>
    quote name ++ ':' :: value.chars ++ ',' :: membersChars (next :: members)

end

/-- The text of a value without white space. -/
def Value.compact (v : Value) : String := String.ofList v.chars

/-- A new line with two blanks for each level. -/
def newline (level : Nat) : List Char := '\n' :: List.replicate (2 * level) ' '

mutual

/-- The characters of a value at a level of nesting, one member or item a line. -/
def Value.prettyChars (level : Nat) : Value → List Char
  | .array (item :: items) =>
    '[' :: prettyItems (level + 1) (item :: items) ++ newline level ++ [']']
  | .object (member :: members) =>
    '\x7b' :: prettyMembers (level + 1) (member :: members) ++ newline level ++ ['\x7d']
  | .array [] => ['[', ']']
  | .object [] => ['\x7b', '\x7d']
  | .null => ['n', 'u', 'l', 'l']
  | .bool true => ['t', 'r', 'u', 'e']
  | .bool false => ['f', 'a', 'l', 's', 'e']
  | .number n => n.numeral.text
  | .string s => quote s

/-- The items of an array, each on a line of its own. -/
def Value.prettyItems (level : Nat) : List Value → List Char
  | [] => []
  | [item] => newline level ++ item.prettyChars level
  | item :: next :: items =>
    newline level ++ item.prettyChars level ++ ',' :: prettyItems level (next :: items)

/-- The members of an object, each on a line of its own. -/
def Value.prettyMembers (level : Nat) : List (String × Value) → List Char
  | [] => []
  | [(name, value)] => newline level ++ quote name ++ ':' :: ' ' :: value.prettyChars level
  | (name, value) :: next :: members =>
    newline level ++ quote name ++ ':' :: ' ' :: value.prettyChars level ++
      ',' :: prettyMembers level (next :: members)

end

/-- The text of a value with one member or item a line. -/
def Value.pretty (v : Value) : String := String.ofList (v.prettyChars 0)

end ContentBlocking.Json
