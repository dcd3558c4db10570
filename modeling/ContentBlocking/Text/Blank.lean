/-!
# White space, trimming and lines

`Text.isBlank` is the Unicode property `White_Space`.  On top of it stand `Text.trim`,
`Text.firstWord?` and `Text.lines`, the three ways in which a line-oriented file is cut up.
-/

namespace ContentBlocking.Text

/-- A character with the Unicode property `White_Space`. -/
def isBlank (c : Char) : Bool :=
  let n := c.toNat
  (0x09 ≤ n && n ≤ 0x0D) || n == 0x20 || n == 0x85 || n == 0xA0 || n == 0x1680 ||
    (0x2000 ≤ n && n ≤ 0x200A) || n == 0x2028 || n == 0x2029 || n == 0x202F || n == 0x205F ||
    n == 0x3000

theorem isBlank_of_isWhitespace {c : Char} (h : c.isWhitespace = true) : isBlank c = true := by
  simp only [Char.isWhitespace, Bool.or_eq_true, decide_eq_true_eq] at h
  rcases h with ((rfl | rfl) | rfl) | rfl <;> decide

/-- The text without its trailing characters that satisfy `p`. -/
def dropRightWhile (p : Char → Bool) (cs : List Char) : List Char :=
  (cs.reverse.dropWhile p).reverse

/-- The text without blanks at either end. -/
def trim (cs : List Char) : List Char :=
  dropRightWhile isBlank (cs.dropWhile isBlank)

/-- The first run of characters between blanks, if there is one. -/
def firstWord? (cs : List Char) : Option (List Char) :=
  match (cs.dropWhile isBlank).takeWhile (fun c => !isBlank c) with
  | [] => none
  | word => some word

/-- The pieces of a text between the characters that satisfy `sep`; there is always one. -/
def splitOnP (sep : Char → Bool) : List Char → List (List Char)
  | [] => [[]]
  | c :: cs =>
    match splitOnP sep cs with
    | [] => [[c]]
    | piece :: pieces => if sep c then [] :: piece :: pieces else (c :: piece) :: pieces

/-- The pieces of a text between two occurrences of `sep`. -/
def splitOn (sep : Char) (cs : List Char) : List (List Char) :=
  splitOnP (· == sep) cs

/-- The lines of a text: each ends at a line feed, a carriage return before it belongs to the
ending, and nothing after the last line feed is no line. -/
def lines (cs : List Char) : List (List Char) :=
  let pieces := splitOn '\n' cs
  let ended := pieces.dropLast.map fun l => if l.getLast? = some '\r' then l.dropLast else l
  match pieces.getLast? with
  | some (c :: last) => ended ++ [c :: last]
  | _ => ended

/-- The pieces joined, with `sep` between two of them. -/
def joinWith (sep : Char) : List (List Char) → List Char
  | [] => []
  | [p] => p
  | p :: q :: ps => p ++ sep :: joinWith sep (q :: ps)

theorem splitOnP_ne_nil (sep : Char → Bool) (cs : List Char) : splitOnP sep cs ≠ [] := by
  cases cs with
  | nil => simp [splitOnP]
  | cons c cs =>
    simp only [splitOnP]
    split
    · simp
    · split <;> simp

/-- Joining the pieces of a text gives the text back. -/
theorem joinWith_splitOn (sep : Char) (cs : List Char) : joinWith sep (splitOn sep cs) = cs := by
  induction cs with
  | nil => rfl
  | cons c cs ih =>
    simp only [splitOn, splitOnP] at ih ⊢
    split
    · next h => exact absurd h (splitOnP_ne_nil _ cs)
    · next piece pieces h =>
      rw [h] at ih
      split
      · next hc =>
        rw [beq_iff_eq] at hc
        rw [joinWith, ih, hc, List.nil_append]
      · cases pieces with
        | nil => simpa [joinWith] using ih
        | cons q qs => simpa [joinWith] using ih

end ContentBlocking.Text
