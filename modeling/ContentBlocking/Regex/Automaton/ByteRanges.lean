import ContentBlocking.Unicode.CharSet

/-!
# Ranges of characters as ranges of bytes

The characters of a range are written in UTF-8 by sequences of bytes.  `byteRanges` cuts a range
into pieces so that each piece is a sequence of ranges of bytes: its characters are written by the
bytes that come one from each range.
-/

namespace ContentBlocking.Regex.Automaton

/-- The bytes from one to another. -/
abbrev ByteRange := Nat × Nat

/-- The last characters that one, two and three bytes write. -/
def lastOfLengths : List Nat := [0x7F, 0x7FF, 0xFFFF]

/-- The numbers of characters that differ in their last one, two and three continuation bytes. -/
def blockSizes : List Nat := [0x40, 0x1000, 0x40000]

/-- Where a range must be cut for the blocks of one size, so that each piece lies in one block or
consists of whole blocks. -/
def blockCut? (first last size : Nat) : Option Nat :=
  if first / size = last / size then none
  else if first % size ≠ 0 then some (first / size * size + size - 1)
  else if last % size ≠ size - 1 then some (last / size * size - 1)
  else none

/-- The character after which a range is cut, if its characters are not written by one sequence of
ranges of bytes. -/
def cutPoint? (first last : Nat) : Option Nat :=
  match lastOfLengths.find? fun n => first ≤ n && n < last with
  | some n => some n
  | none => if last ≤ 0x7F then none else blockSizes.findSome? (blockCut? first last)

/-- The bytes of the character with a code. -/
def encode (n : Nat) : List Nat := (String.utf8EncodeChar (Char.ofNat n)).map UInt8.toNat

/-- The sequences for a range without surrogates. -/
def scalarRanges (first last : Nat) : List (List ByteRange) :=
  match cutPoint? first last with
  | some n =>
    if first ≤ n ∧ n < last then scalarRanges first n ++ scalarRanges (n + 1) last else []
  | none => [(encode first).zip (encode last)]
termination_by last - first

/-- The sequences of ranges of bytes for a range of characters, in ascending order. -/
def byteRanges (range : Nat × Nat) : List (List ByteRange) :=
  let (first, last) := range
  if first < 0xE000 ∧ 0xD7FF < last then scalarRanges first 0xD7FF ++ scalarRanges 0xE000 last
  else scalarRanges first last

end ContentBlocking.Regex.Automaton
