import ContentBlocking.Regex.Pattern
import ContentBlocking.Rule

/-!
# Rule lists

`RuleList.ofText` reads and validates the text of a rule list, `RuleList.text` writes it in its
normal form, and `RuleList.synthesize` extends a bundled list by the rules that are added to it
before it is compiled.
-/

namespace ContentBlocking

/-- Why a text is no valid rule list. -/
inductive RuleError
  /-- The text is no JSON array of rules. -/
  | json (e : Json.Error)
  /-- The filter of the rule at `index` is no regular expression. -/
  | invalidUrlFilter (index : Nat) (filter : String)
  /-- The rule at `index` hides elements but does not say which. -/
  | missingSelector (index : Nat)
  /-- The rule at `index` has conditions both for and against domains. -/
  | conflictingDomains (index : Nat)
  deriving DecidableEq, Repr

namespace RuleList

open Json (Value Reader)

/-- The wording of the errors that are told by their wording. -/
def missingSelectorMessage (index : Nat) : String :=
  "rule " ++ toString index ++ ": css-display-none requires a selector"

@[inherit_doc missingSelectorMessage]
def conflictingDomainsMessage (index : Nat) : String :=
  "rule " ++ toString index ++ ": if-domain and unless-domain are mutually exclusive"

/-- What is wrong with the rule at `index`, if anything. -/
def problem? (index : Nat) (r : Rule) : Option RuleError :=
  if (Regex.ofPattern? r.trigger.urlFilter).isNone then
    some (.invalidUrlFilter index r.trigger.urlFilter)
  else if r.action.kind = .cssDisplayNone ∧ r.action.selector = none then
    some (.missingSelector index)
  else if r.trigger.ifDomain.isSome ∧ r.trigger.unlessDomain.isSome then
    some (.conflictingDomains index)
  else none

/-- The first problem of a list whose first rule has an index. -/
def firstProblem? (index : Nat) : List Rule → Option RuleError
  | [] => none
  | r :: rules => (problem? index r).or (firstProblem? (index + 1) rules)

/-- The rules of a text, not validated. -/
def read (text : String) : Except Json.Error (List Rule) :=
  (Reader.list Rule.reader).run text

/-- The valid rules of a text. -/
def ofText (text : String) : Except RuleError (List Rule) :=
  match read text with
  | .error e => .error (.json e)
  | .ok rules =>
    match firstProblem? 0 rules with
    | some e => .error e
    | none => .ok rules

/-- The JSON form of a list. -/
def toJson (rules : List Rule) : Value := .array (rules.map Rule.toJson)

/-- The normal form of a list. -/
def text (rules : List Rule) : String := (toJson rules).compact

/-! ### Synthesis -/

/-- The rule that keeps cosmetic lists from blocking the pages that a user visits. -/
def preventTopLevelBlocks : Value :=
  .object [
    ("action", .object [("type", .string "ignore-previous-rules")]),
    ("trigger", .object [
      ("load-type", .strings ["first-party"]),
      ("resource-type", .strings ["document"]),
      ("url-filter", .string ".*")])]

/-- The items of an array of values of any type. -/
def readItems : Reader (List Value) := fun node =>
  match node with
  | .array .. => do
    match ← Reader.any node with
    | .array items => return items
    | _ => throw .mismatched
  | node => .error node.mismatch

/-- The text of a bundled list followed by the rule of an allow-list, which cancels all rules before
it, and for cosmetic lists by `preventTopLevelBlocks`.  Members that are not known of rules are
kept. -/
def synthesize (bundled : String) (allowRule : Option Value) (cosmetic : Bool) :
    Except Json.Error String := do
  let rules ← readItems.run bundled
  let rules := rules ++ allowRule.toList ++ if cosmetic then [preventTopLevelBlocks] else []
  return (Value.array rules).compact

end RuleList

end ContentBlocking
