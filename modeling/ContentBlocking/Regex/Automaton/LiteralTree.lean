import ContentBlocking.Regex.Automaton.Size

/-!
# The states of literals to choose from

The literals of a choice share the states of what they begin with.  Literals are ordered: where one
ends, the arrows of those before it and of those after it are in different states.
-/

namespace ContentBlocking.Regex.Automaton

/-- The bytes of a literal in the order in which they are read. -/
def literalBytes (d : Direction) (cs : List Char) : List UInt8 :=
  let bytes := cs.flatMap String.utf8EncodeChar
  match d with
  | .forward => bytes
  | .backward => bytes.reverse

/-- Literals between those that are empty. -/
def splitAtEmpty : List (List UInt8) → List (List (List UInt8))
  | [] => [[]]
  | [] :: rest => [] :: splitAtEmpty rest
  | l :: rest =>
    match splitAtEmpty rest with
    | [] => [[l]]
    | run :: runs => (l :: run) :: runs

/-- Literals of which several empty ones in front are one. -/
def dropRepeated : List (List UInt8) → List (List UInt8)
  | [] :: rest => [] :: rest.dropWhile List.isEmpty
  | literals => literals

/-- What follows a byte in the literals that begin with it. -/
def tailsOf (b : UInt8) (literals : List (List UInt8)) : List (List UInt8) :=
  literals.filterMap fun
    | c :: tail => if c = b then some tail else none
    | [] => none

/-- The literals behind each of the bytes with which some begin. -/
def tailsByByte (run : List (List UInt8)) : List (List (List UInt8)) :=
  (run.filterMap List.head?).eraseDups.map fun b => tailsOf b run

/-- The bytes in the lists of a state for a run of literals that begin with `n` bytes: a single
arrow needs no list. -/
def runBytes (n : Nat) : Nat := if n = 1 then 0 else Size.arrowBytes * n

/-- The states for literals of at most `length` bytes: a choice between the runs, in which the end
of a literal is a branch too, and for each run a state with an arrow for each byte. -/
def literalStates : Nat → List (List UInt8) → Size
  | 0, _ => .zero
  | length + 1, literals =>
    if literals.all List.isEmpty then .zero else
    let runs := splitAtEmpty (dropRepeated literals)
    let tails := runs.filterMap fun run => if run.isEmpty then none else some (tailsByByte run)
    let choice : Size := ⟨1, Size.branchBytes * (tails.length + (runs.length - 1))⟩
    tails.foldl (fun size groups =>
      groups.foldl (fun size tails => size.add (literalStates length tails))
        (size.add ⟨1, runBytes groups.length⟩)) choice

/-- The states that read one of several literals, and their end. -/
def literalTree (d : Direction) (literals : List (List Char)) : Size :=
  let literals := literals.map (literalBytes d)
  let length := literals.foldl (fun n l => max n l.length) 0
  (literalStates (length + 1) literals).add ⟨1, 0⟩

end ContentBlocking.Regex.Automaton
