import ContentBlocking.Regex.Look

/-!
# Regular expressions

`Regex` is a regular expression by what it matches.  `Regex.sequence`, `Regex.choice` and
`Regex.repeated` put regular expressions together and simplify on the way: literals in a row become
one, characters to choose from become a set, and what all branches begin with is said once.
-/

namespace ContentBlocking

/-- A regular expression. -/
inductive Regex
  | empty
  | literal (chars : List Char)
  /-- One character of a set, which is a set of ASCII bytes if `bytes` says so. -/
  | set (bytes : Bool) (s : CharSet)
  | look (l : Look)
  | repetition (least : Nat) (most : Option Nat) (lazy : Bool) (sub : Regex)
  | group (number : Nat) (sub : Regex)
  | concat (parts : List Regex)
  | alternation (branches : List Regex)

instance : Inhabited Regex := ⟨.empty⟩

namespace Regex

/-! ### Comparing and measuring -/

mutual

/-- Whether two regular expressions are built in the same way. -/
def same : Regex → Regex → Bool
  | empty, empty => true
  | literal cs, literal ds => cs == ds
  | set b s, set c t => b == c && s == t
  | look l, look m => l == m
  | repetition least most lazy sub, repetition least' most' lazy' sub' =>
    least == least' && most == most' && lazy == lazy' && same sub sub'
  | group n sub, group n' sub' => n == n' && same sub sub'
  | concat rs, concat ts => sameAll rs ts
  | alternation rs, alternation ts => sameAll rs ts
  | _, _ => false

/-- Whether two lists hold the same regular expressions. -/
def sameAll : List Regex → List Regex → Bool
  | [], [] => true
  | r :: rs, t :: ts => same r t && sameAll rs ts
  | _, _ => false

end

mutual

/-- The number of regular expressions within one. -/
def nodes : Regex → Nat
  | empty | literal _ | set .. | look _ => 1
  | repetition _ _ _ sub | group _ sub => sub.nodes + 1
  | concat rs | alternation rs => nodesAll rs + 1

/-- The number of regular expressions within those of a list. -/
def nodesAll : List Regex → Nat
  | [] => 0
  | r :: rs => r.nodes + nodesAll rs

end

mutual

/-- A regular expression that matches no character at all. -/
def isZeroWidth : Regex → Bool
  | empty | look _ => true
  | literal _ | set .. => false
  | repetition _ most _ sub => most.isSome && sub.isZeroWidth
  | group _ sub => sub.isZeroWidth
  | concat rs | alternation rs => allZeroWidth rs

/-- Whether all of several regular expressions match no character. -/
def allZeroWidth : List Regex → Bool
  | [] => true
  | r :: rs => r.isZeroWidth && allZeroWidth rs

end

mutual

/-- The least number of characters that a regular expression matches; none if a part of it can match
nothing. -/
def minLength? : Regex → Option Nat
  | empty | look _ => some 0
  | literal cs => some cs.length
  | set _ s => if s.ranges.isEmpty then none else some 1
  | repetition least _ _ sub => sub.minLength?.map (least * ·)
  | group _ sub => sub.minLength?
  | concat rs => (minLengths? rs).map fun lengths => lengths.foldl (· + ·) 0
  | alternation rs => (minLengths? rs).map fun lengths => lengths.min?.getD 0

/-- The least numbers of characters that several regular expressions match. -/
def minLengths? : List Regex → Option (List Nat)
  | [] => some []
  | r :: rs => do return (← r.minLength?) :: (← minLengths? rs)

end

/-- Every match has a character. -/
def consumes (r : Regex) : Bool := r.minLength?.any (0 < ·)

/-! ### Sets -/

/-- One character of a set; a set of one character is a literal, and a set without characters is one
of bytes. -/
def ofSet (bytes : Bool) (s : CharSet) : Regex :=
  match s.only? with
  | some c => literal [c]
  | none => set (bytes || s.ranges.isEmpty) s

/-- The only character of a literal, as a range. -/
def charRange? : Regex → Option (Nat × Nat)
  | literal [c] => some (c.toNat, c.toNat)
  | _ => none

/-- The ranges of a set. -/
def setRanges? : Regex → Option (List (Nat × Nat))
  | set _ s => some s.ranges
  | _ => none

/-- The set that several regular expressions make up if all are single characters or all are
sets. -/
def joined? (rs : List Regex) : Option Regex :=
  match rs.mapM charRange? with
  | some ranges => some (ofSet false (.ofRanges ranges))
  | none => (rs.mapM setRanges?).map fun ranges => ofSet false (.ofRanges ranges.flatten)

/-! ### Putting together -/

/-- The parts in a row of a regular expression that is to be a part of a row. -/
def partsInRow : Regex → List Regex
  | empty => []
  | concat parts => parts
  | r => [r]

/-- Parts with the literals that follow each other joined. -/
def joinLiterals : List Regex → List Regex
  | [] => []
  | literal cs :: rs =>
    match joinLiterals rs with
    | literal ds :: rest => literal (cs ++ ds) :: rest
    | rest => literal cs :: rest
  | r :: rs => r :: joinLiterals rs

/-- Several regular expressions in a row. -/
def sequence (rs : List Regex) : Regex :=
  match joinLiterals (rs.flatMap partsInRow) with
  | [] => empty
  | [r] => r
  | parts => concat parts

/-- The parts of a row. -/
def parts : Regex → List Regex
  | concat parts => parts
  | _ => []

/-- The branches of a regular expression that is to be a branch of a choice. -/
def branches : Regex → List Regex
  | alternation branches => branches
  | r => [r]

/-- The parts at the start of two rows that are the same. -/
def commonParts : List Regex → List Regex → List Regex
  | r :: rs, t :: ts => if r.same t then r :: commonParts rs ts else []
  | _, _ => []

/-- The parts with which all of several rows begin. -/
def sharedParts : List Regex → List Regex
  | [] => []
  | r :: rs => rs.foldl (fun shared t => commonParts shared t.parts) r.parts

/-- One of several regular expressions; at most `fuel` times, what all begin with is taken out. -/
def choiceWithin : Nat → List Regex → Regex
  | 0, rs => alternation rs
  | fuel + 1, rs =>
    match rs.flatMap branches with
    | [] => set true .empty
    | [r] => r
    | rs =>
      match joined? rs, sharedParts rs with
      | some r, _ => r
      | none, [] => alternation rs
      | none, shared =>
        let rests := rs.map fun r => sequence (r.parts.drop shared.length)
        sequence (shared ++ [choiceWithin fuel rests])

/-- One of several regular expressions. -/
def choice (rs : List Regex) : Regex := choiceWithin (nodesAll rs + 1) rs

/-- A repeated regular expression; what matches no character is repeated once at most. -/
def repeated (least : Nat) (most : Option Nat) (lazy : Bool) (sub : Regex) : Regex :=
  let (least, most) :=
    if sub.isZeroWidth then (min least 1, some ((most.map (min · 1)).getD 1)) else (least, most)
  if most = some 0 then empty
  else if least = 1 ∧ most = some 1 then sub
  else repetition least most lazy sub

end Regex

end ContentBlocking
