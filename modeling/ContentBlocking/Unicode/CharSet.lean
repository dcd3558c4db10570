/-!
# Sets of characters

A set of characters is a list of ranges of code points in ascending order, none of which reaches
the next one.  The ends of a range are characters, and a range may pass over the surrogates; two
ranges that only the surrogates separate stay apart.
-/

namespace ContentBlocking

/-- The code points in one of several ranges, both ends included. -/
structure CharSet where
  ranges : List (Nat × Nat)
  deriving DecidableEq, Repr

namespace CharSet

/-- The set has the character with this code. -/
def hasCode (s : CharSet) (n : Nat) : Bool :=
  s.ranges.any fun r => r.1 ≤ n && n ≤ r.2

/-- The set has a character. -/
def contains (s : CharSet) (c : Char) : Bool := s.hasCode c.toNat

/-- The set without characters. -/
def empty : CharSet := ⟨[]⟩

/-- The greatest code point. -/
def maxCode : Nat := 0x10FFFF

/-- The set of all characters. -/
def all : CharSet := ⟨[(0, maxCode)]⟩

/-- The set of one character. -/
def single (c : Char) : CharSet := ⟨[(c.toNat, c.toNat)]⟩

/-- The set of the characters from one to another. -/
def range (first last : Nat) : CharSet := ⟨[(first, last)]⟩

theorem hasCode_range (first last n : Nat) :
    (range first last).hasCode n = (first ≤ n && n ≤ last) := by
  simp [range, hasCode]

theorem contains_single (c d : Char) : (single c).contains d = true ↔ d = c := by
  simp only [single, contains, hasCode, List.any_cons, List.any_nil, Bool.or_false,
    Bool.and_eq_true, decide_eq_true_eq]
  constructor
  · intro h
    exact Char.ext (UInt32.toNat_inj.mp (Nat.le_antisymm h.2 h.1))
  · rintro rfl
    exact ⟨Nat.le_refl _, Nat.le_refl _⟩

theorem contains_empty (c : Char) : empty.contains c = false := rfl

/-- The only character of a set that has just one. -/
def only? (s : CharSet) : Option Char :=
  match s.ranges with
  | [(first, last)] => if first = last then some (Char.ofNat first) else none
  | _ => none

/-- The set has ASCII characters only. -/
def isAscii (s : CharSet) : Bool := s.ranges.all fun r => r.2 < 0x80

/-! ### Ranges in order -/

/-- A range joined with those after it that it reaches. -/
def mergeFrom (first last : Nat) : List (Nat × Nat) → List (Nat × Nat)
  | [] => [(first, last)]
  | (a, b) :: ranges =>
    if a ≤ last + 1 then mergeFrom first (max last b) ranges
    else (first, last) :: mergeFrom a b ranges

/-- The set of the characters in some ranges. -/
def ofRanges (ranges : List (Nat × Nat)) : CharSet :=
  match ranges.mergeSort fun r t => r.1 ≤ t.1 with
  | [] => empty
  | (first, last) :: ranges => ⟨mergeFrom first last ranges⟩

/-- The code of the character after one. -/
def nextCode (n : Nat) : Nat := if n = 0xD7FF then 0xE000 else n + 1

/-- The code of the character before one. -/
def previousCode (n : Nat) : Nat := if n = 0xE000 then 0xD7FF else n - 1

/-! ### Operations -/

/-- The characters of two sets. -/
def union (s t : CharSet) : CharSet := ofRanges (s.ranges ++ t.ranges)

/-- The range between two characters, whichever comes first. -/
def between (m n : Nat) : Nat × Nat := (min m n, max m n)

/-- What ranges in order leave out after the character `last`.  Where they leave out surrogates
only, the gap is from the character after the surrogates to the one before them, and so has both. -/
def gapsAfter (last : Nat) : List (Nat × Nat) → List (Nat × Nat)
  | [] => if last < maxCode then [(nextCode last, maxCode)] else []
  | (a, b) :: ranges => between (nextCode last) (previousCode a) :: gapsAfter b ranges

/-- The characters that are not in a set. -/
def complement (s : CharSet) : CharSet :=
  match s.ranges with
  | [] => all
  | (a, b) :: ranges =>
    let gaps := gapsAfter b ranges
    ⟨if 0 < a then (0, previousCode a) :: gaps else gaps⟩

/-- What two ranges have in common. -/
def overlap? (r t : Nat × Nat) : Option (Nat × Nat) :=
  let first := max r.1 t.1
  let last := min r.2 t.2
  if first ≤ last then some (first, last) else none

/-- The characters of both sets. -/
def inter (s t : CharSet) : CharSet :=
  ⟨s.ranges.flatMap fun r => t.ranges.filterMap (overlap? r)⟩

/-- What ranges in order leave of the range from one character to another. -/
def cut (first last : Nat) : List (Nat × Nat) → List (Nat × Nat)
  | [] => [(first, last)]
  | (a, b) :: ranges =>
    if b < first then cut first last ranges
    else if last < a then [(first, last)]
    else
      let behind := if b < last then cut (nextCode b) last ranges else []
      if first < a then (first, previousCode a) :: behind else behind

/-- The characters of the first set that are not in the second. -/
def diff (s t : CharSet) : CharSet :=
  ⟨s.ranges.flatMap fun r => cut r.1 r.2 t.ranges⟩

/-- The characters of exactly one of two sets. -/
def symmDiff (s t : CharSet) : CharSet := (s.union t).diff (s.inter t)

end CharSet

end ContentBlocking
