import ContentBlocking.Json.Node
import ContentBlocking.Text.Blank

/-!
# Tables of characters

A table is written as text.  Its entries are words that give ranges of code points in ascending
order: the distance from the end of the range before and, after a plus sign, the distance from the
first to the last code point.  After a tilde instead, the range has every second code point and the
number is that of its code points but the first.  Values of the range may follow behind a colon,
with commas between them.  All numbers are hexadecimal.
-/

namespace ContentBlocking.Unicode

/-- The number that hexadecimal digits write; other characters count as zeros. -/
def natOfHex (cs : List Char) : Nat :=
  cs.foldl (fun n c => 16 * n + (Json.hexDigit? c).getD 0) 0

/-- The words of the lines of a table. -/
def wordsOfTable (table : List String) : List (List Char) :=
  table.flatMap fun line => Text.splitOn ' ' line.toList

/-- A range of code points from `first` to `last` in steps, with its values. -/
structure TableEntry where
  first : Nat
  last : Nat
  step : Nat
  values : List Nat
  deriving DecidableEq, Repr

namespace TableEntry

/-- The entry that a word writes; the entry before it ends just before `next`. -/
def ofWord (next : Nat) (word : List Char) : TableEntry :=
  let place := word.takeWhile (· != ':')
  let values := match word.dropWhile (· != ':') with
    | _ :: text => (Text.splitOn ',' text).map natOfHex
    | [] => []
  let isSign (c : Char) : Bool := c == '+' || c == '~'
  let first := next + natOfHex (place.takeWhile fun c => !isSign c)
  match place.dropWhile fun c => !isSign c with
  | '~' :: count => ⟨first, first + 2 * natOfHex count, 2, values⟩
  | _ :: length => ⟨first, first + natOfHex length, 1, values⟩
  | [] => ⟨first, first, 1, values⟩

/-- The entries that words write. -/
def ofWords (next : Nat) : List (List Char) → List TableEntry
  | [] => []
  | word :: words =>
    let entry := ofWord next word
    entry :: ofWords (entry.last + 1) words

/-- The entries of a table. -/
def ofTable (table : List String) : List TableEntry := ofWords 0 (wordsOfTable table)

/-- The entry has a code point. -/
def has (e : TableEntry) (n : Nat) : Bool :=
  e.first ≤ n && n ≤ e.last && (n - e.first) % e.step == 0

/-- The values of a code point of an entry; a single value counts up with the code points. -/
def valuesAt (e : TableEntry) (n : Nat) : List Nat :=
  match e.values with
  | [value] => [value + (n - e.first)]
  | values => values

end TableEntry

end ContentBlocking.Unicode
