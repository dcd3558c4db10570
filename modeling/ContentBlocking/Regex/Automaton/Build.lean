import ContentBlocking.Regex.Automaton.LiteralTree
import ContentBlocking.Regex.Automaton.SetStates
import ContentBlocking.Regex.Basic

/-!
# Automata of regular expressions

`Regex.fits` says whether the automata of a regular expression, one for each direction, are small
enough to be built.
-/

namespace ContentBlocking.Regex

open Automaton

/-! ### Where matches begin -/

mutual

/-- Every match begins at the start of the text or, read backward, ends at its end. -/
def isAnchored (d : Direction) : Regex → Bool
  | look l => l == match d with
    | .forward => .textStart
    | .backward => .textEnd
  | empty | literal _ | set .. => false
  | repetition least _ _ sub => 0 < least && sub.isAnchored d
  | group _ sub => sub.isAnchored d
  | concat rs =>
    match d with
    | .forward => anyAnchored d rs
    | .backward => anyAnchoredBehind d rs
  | alternation rs => allAnchored d rs

/-- Whether one of several parts in a row is anchored before which no character is matched. -/
def anyAnchored (d : Direction) : List Regex → Bool
  | [] => false
  | r :: rs => r.isAnchored d || r.isZeroWidth && anyAnchored d rs

/-- Whether one of several parts in a row is anchored after which no character is matched. -/
def anyAnchoredBehind (d : Direction) : List Regex → Bool
  | [] => false
  | r :: rs => anyAnchoredBehind d rs || allZeroWidth rs && r.isAnchored d

/-- Whether all of several branches are anchored. -/
def allAnchored (d : Direction) : List Regex → Bool
  | [] => true
  | r :: rs => r.isAnchored d && allAnchored d rs

end

/-! ### Building -/

/-- The text of a literal. -/
def literal? : Regex → Option (List Char)
  | literal cs => some cs
  | _ => none

/-- Several copies of a part in a row; the copy before them ends in a choice if `fromChoice` says
so, and the result tells it of the last one. -/
def copiesAfter (part : Builder Bool) : Nat → Bool → Builder Bool
  | 0, fromChoice => return fromChoice
  | n + 1, fromChoice => do
    Builder.link fromChoice
    copiesAfter part n (← part)

/-- Some copies of a part in a row, or a state that reads nothing. -/
def copies (part : Builder Bool) : Nat → Builder Bool
  | 0 => do
    let _ ← Builder.state 0
    return false
  | n + 1 => do copiesAfter part n (← part)

/-- At most so many copies of a part, each behind a choice between it and the end. -/
def optionalCopies (part : Builder Bool) : Nat → Bool → Builder Bool
  | 0, fromChoice => return fromChoice
  | n + 1, fromChoice => do
    let _ ← Builder.state (2 * Size.branchBytes)
    Builder.link fromChoice
    optionalCopies part n (← part)

/-- A repeated part, and whether it ends in a choice; `consumes` says that the part reads at least
one character. -/
def repetitionStates (least : Nat) (most : Option Nat) (consumes : Bool) (part : Builder Bool) :
    Builder Bool :=
  match least, most with
  | 0, some 1 => do
    let _ ← Builder.state (2 * Size.branchBytes)
    Builder.link (← part)
    let _ ← Builder.state 0
    return false
  | 0, none => do
    if consumes then
      let _ ← Builder.state Size.branchBytes
      Builder.link (← part)
      return true
    Builder.link (← part)
    let _ ← Builder.state (2 * Size.branchBytes)
    let _ ← Builder.state (2 * Size.branchBytes)
    let _ ← Builder.state 0
    return false
  | least + 1, none => do
    Builder.link (← copies part (least + 1))
    let _ ← Builder.state Size.branchBytes
    return true
  | least, some most => do
    let fromChoice ← copies part least
    if least = most then return fromChoice
    let _ ← Builder.state 0
    Builder.link (← optionalCopies part (most - least) fromChoice)
    return false

mutual

/-- The states of a regular expression, and whether they end in a choice. -/
def build (d : Direction) : Regex → Builder Bool
  | empty => do
    let _ ← Builder.state 0
    return false
  | literal cs => do
    Builder.grow ⟨(literalBytes d cs).length, 0⟩
    return false
  | set _ s => do
    setStates d s
    return false
  | look _ => do
    let _ ← Builder.state 0
    return false
  | repetition least most _ sub => repetitionStates least most sub.consumes (build d sub)
  | group _ sub =>
    match d with
    | .forward => do
      let _ ← Builder.state 0
      let fromChoice ← build d sub
      let _ ← Builder.state 0
      Builder.link fromChoice
      return false
    | .backward => build d sub
  | concat rs =>
    match d with
    | .forward => buildForward d rs
    | .backward => buildBackward d rs
  | alternation rs => do
    match rs.mapM literal? with
    | some literals => Builder.grow (literalTree d literals)
    | none => buildBranches d 0 rs
    return false

/-- The states of several parts in a row from the first to the last. -/
def buildForward (d : Direction) : List Regex → Builder Bool
  | [] => return false
  | r :: rs => do
    let fromChoice ← build d r
    if rs.isEmpty then return fromChoice
    Builder.link fromChoice
    buildForward d rs

/-- The states of several parts in a row from the last to the first. -/
def buildBackward (d : Direction) : List Regex → Builder Bool
  | [] => return false
  | r :: rs => do
    if rs.isEmpty then build d r else
    Builder.link (← buildBackward d rs)
    build d r

/-- The states of the branches from number `n` on; the choice between all and their common end
follow the first two. -/
def buildBranches (d : Direction) (n : Nat) : List Regex → Builder Unit
  | [] => pure ()
  | r :: rs => do
    let fromChoice ← build d r
    if n = 1 then Builder.grow ⟨2, 0⟩
    Builder.grow ⟨0, Size.branchBytes⟩
    Builder.link fromChoice
    buildBranches d (n + 1) rs

end

/-- The automaton of a regular expression: unless matches are anchored, a loop over any byte comes
first; read forward, the whole match is marked as a group. -/
def automaton (d : Direction) (r : Regex) : Builder Unit := do
  if r.isAnchored d then
    let _ ← Builder.state 0
  else
    let _ ← Builder.state (2 * Size.branchBytes)
    let _ ← Builder.state 0
    let _ ← Builder.state Size.arrowBytes
  let fromChoice ← build d (match d with
    | .forward => .group 0 r
    | .backward => r)
  let _ ← Builder.state 0
  Builder.link fromChoice

/-- Choices between this many literals are looked up in a table of their own. -/
def manyLiterals : Nat := 3000

/-- A regular expression that is a choice between many literals. -/
def isLargeChoice : Regex → Bool
  | alternation rs => manyLiterals ≤ rs.length && (rs.mapM literal?).isSome
  | _ => false

/-- The automata of a regular expression are small enough, or it needs none. -/
def fits (r : Regex) : Bool :=
  r.isLargeChoice ||
    ((automaton .forward r).run .zero).isSome && ((automaton .backward r).run .zero).isSome

end ContentBlocking.Regex
