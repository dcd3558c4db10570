import ContentBlocking.Site.Idna

/-!
# Public suffix lists

A public suffix list holds the domains under which anyone can register a name.  A rule is a domain
whose labels may be `*`; an exclamation mark in front makes it an exception to such a rule.  The
rules form a tree that is descended label by label from the right.
-/

namespace ContentBlocking

/-- What is wrong with the text of a public suffix list. -/
inductive SuffixError
  /-- The text has no rules. -/
  | noRules
  /-- A rule has an empty label. -/
  | emptyLabel (rule : String)
  /-- An exception has a single label. -/
  | exceptionAtFirstLabel (rule : String)
  /-- A rule has no form in ASCII. -/
  | invalidRule (rule : String)
  deriving DecidableEq, Repr

/-- The wording of an error. -/
def SuffixError.message : SuffixError → String
  | .noRules => "the provided list is not valid"
  | .emptyLabel rule => "rule `" ++ rule ++ "` contains an empty label"
  | .exceptionAtFirstLabel rule => "`" ++ rule ++ "`; exceptions only valid at end of rule"
  | .invalidRule rule => "rule `" ++ rule ++ "` is invalid"

/-- What a node of the tree of rules says. -/
inductive SuffixMark
  /-- Rules only pass through the node. -/
  | inner
  /-- A rule ends in the node. -/
  | rule
  /-- An exception ends in the node. -/
  | exception
  deriving DecidableEq, Repr

/-- The nodes of the tree of rules, each named by its labels from the right. -/
structure SuffixList where
  nodes : Std.ExtTreeMap (List String) SuffixMark

namespace SuffixList

/-- The list without rules. -/
def empty : SuffixList := ⟨∅⟩

/-- The list with a node for each start of a path that goes on from `done`. -/
def openPath (l : SuffixList) (done : List String) : List String → SuffixList
  | [] => l
  | label :: labels =>
    let done := done ++ [label]
    openPath ⟨l.nodes.insertIfNew done .inner⟩ done labels

/-- The list with the nodes on the way to `path` and a mark at its end. -/
def mark (l : SuffixList) (path : List String) (m : SuffixMark) : SuffixList :=
  ⟨(l.openPath [] path).nodes.insert path m⟩

/-- The list with one more rule. -/
def insert (l : SuffixList) (rule : List Char) : Except SuffixError SuffixList := do
  let (rule, m) ←
    match rule with
    | '!' :: rest =>
      if rest.contains '.' then pure (rest, SuffixMark.exception)
      else throw (.exceptionAtFirstLabel (String.ofList rule))
    | rule => pure (rule, SuffixMark.rule)
  let labels := Text.splitOn '.' rule
  if labels.any List.isEmpty then throw (.emptyLabel (String.ofList rule))
  return l.mark (labels.reverse.map String.ofList) m

/-- Whether a text occurs in another. -/
def occursIn (needle : List Char) : List Char → Bool
  | [] => needle.isEmpty
  | c :: cs => needle.isPrefixOf (c :: cs) || occursIn needle cs

/-- A line that begins a section of rules. -/
def opensSection (line : List Char) : Bool :=
  occursIn "BEGIN ICANN DOMAINS".toList line || occursIn "BEGIN PRIVATE DOMAINS".toList line

/-- The list after a line, and whether a section of rules has begun.  A rule is the first word of a
line; it is entered as it is written and in ASCII. -/
def readLine (state : SuffixList × Bool) (line : List Char) :
    Except SuffixError (SuffixList × Bool) := do
  let (l, inside) := state
  if opensSection line then return (l, true)
  if ['/', '/'].isPrefixOf line || !inside then return (l, inside)
  match Text.firstWord? line with
  | none => return (l, inside)
  | some rule =>
    let l ← l.insert rule
    match Idna.toAscii? rule with
    | none => throw (.invalidRule (String.ofList rule))
    | some ascii => return (← l.insert ascii, inside)

/-- The list that a text holds. -/
def ofText (text : String) : Except SuffixError SuffixList := do
  let (l, _) ← (Text.lines text.toList).foldlM readLine (empty, false)
  if l.nodes.isEmpty then throw .noRules
  return l

/-- The node below `path` for a label: the label's own or the one for any label. -/
def child? (l : SuffixList) (path : List String) (label : String) :
    Option (List String × SuffixMark) :=
  let own := path ++ [label]
  let any := path ++ ["*"]
  match l.nodes[own]? with
  | some m => some (own, m)
  | none => l.nodes[any]?.map (any, ·)

/-- The number of labels of the suffix, below the node `path` that `seen` labels lead to and with
the suffix so far having `best` labels. -/
def descend (l : SuffixList) (path : List String) (seen best : Nat) : List String → Nat
  | [] => best
  | label :: labels =>
    match l.child? path label with
    | none => best
    | some (_, .exception) => seen
    | some (path, .rule) => descend l path (seen + 1) (seen + 1) labels
    | some (path, .inner) => descend l path (seen + 1) best labels

/-- The number of labels of the suffix of a name that is given by its labels from the right; the
last label of a name is always part of it. -/
def suffixLength (l : SuffixList) : List String → Nat
  | [] => 0
  | label :: labels => if l.nodes.contains [label] then l.descend [label] 1 1 labels else 1

/-- The suffix of a host with the label before it, or the host if there is none. -/
def registrable (l : SuffixList) (host : List Char) : List Char :=
  let labels := (Text.splitOn '.' host).reverse
  let n := l.suffixLength (labels.map String.ofList)
  match labels.drop n with
  | [] | [[]] => host
  | label :: _ => Text.joinWith '.' (label :: (labels.take n).reverse)

end SuffixList

end ContentBlocking
