import ContentBlocking.AllowList.Kind
import ContentBlocking.DomainPattern
import ContentBlocking.Json.Writer
import Std.Data.ExtTreeSet

/-!
# Allow-listed domains

A set of domains and what it looks like from outside: the patterns that suppress trackers and the
content rule that cancels all rules before it.
-/

namespace ContentBlocking.AllowList

/-- The wildcard for a domain and its subdomains. -/
def Domains.wildcard (domain : String) : String := "*" ++ domain

/-- One pattern for each domain of a set, in the order of their code points.  It matches the domain
and its subdomains. -/
def Domains.patternsOf (domains : Std.ExtTreeSet String) : List String :=
  domains.toList.map fun domain => DomainPattern.ofWildcard (wildcard domain)

/-! ### Sets and their patterns -/

theorem Domains.insert_of_contains {domains : Std.ExtTreeSet String} {domain : String}
    (h : domains.contains domain = true) : domains.insert domain = domains := by
  refine Std.ExtTreeSet.ext_contains fun domain' => ?_
  rw [Std.ExtTreeSet.contains_insert]
  by_cases heq : compare domain domain' = .eq
  · rw [← Std.LawfulEqCmp.eq_of_compare heq, h, Bool.or_true]
  · rw [beq_false_of_ne heq, Bool.false_or]

theorem Domains.erase_of_not_contains {domains : Std.ExtTreeSet String} {domain : String}
    (h : domains.contains domain = false) : domains.erase domain = domains := by
  refine Std.ExtTreeSet.ext_contains fun domain' => ?_
  rw [Std.ExtTreeSet.contains_erase]
  by_cases heq : compare domain domain' = .eq
  · rw [← Std.LawfulEqCmp.eq_of_compare heq, h, Bool.and_false]
  · rw [bne_iff_ne.2 heq, Bool.true_and]

/-- A set of domains and its patterns, which are computed when the set changes. -/
structure Domains where
  domains : Std.ExtTreeSet String
  patterns : List String
  patterns_eq : patterns = Domains.patternsOf domains

namespace Domains

open Json (Value)

/-- A set with its patterns. -/
def ofSet (domains : Std.ExtTreeSet String) : Domains := ⟨domains, patternsOf domains, rfl⟩

/-- The set without domains. -/
def empty : Domains := ofSet ∅

/-- The set of the domains in a list. -/
def ofList (domains : List String) : Domains := ofSet (.ofList domains compare)

/-- The domains in the order of their code points. -/
def toList (d : Domains) : List String := d.domains.toList

/-- Whether a domain is in the set. -/
def contains (d : Domains) (domain : String) : Bool := d.domains.contains domain

/-- The set with one more domain; a domain that is there does not change the patterns. -/
def insert (d : Domains) (domain : String) : Domains where
  domains := d.domains.insert domain
  patterns := if d.contains domain then d.patterns else patternsOf (d.domains.insert domain)
  patterns_eq := by
    split
    · next h => rw [d.patterns_eq, insert_of_contains h]
    · rfl

/-- The set without a domain; a domain that is not there does not change the patterns. -/
def erase (d : Domains) (domain : String) : Domains where
  domains := d.domains.erase domain
  patterns := if d.contains domain then patternsOf (d.domains.erase domain) else d.patterns
  patterns_eq := by
    split
    · rfl
    · next h => rw [d.patterns_eq, erase_of_not_contains (Bool.eq_false_iff.2 h)]

/-- The number of domains. -/
def size (d : Domains) : Nat := d.domains.size

/-- Whether the set has no domains. -/
def isEmpty (d : Domains) : Bool := d.domains.isEmpty

/-- The content rule that cancels all rules before it on the domains; none if there are none. -/
def rule? (d : Domains) : Option Value :=
  if d.isEmpty then none else
    some (.object [
      ("action", .object [("type", .string "ignore-previous-rules")]),
      ("trigger", .object [
        ("if-domain", .strings (d.toList.map wildcard)),
        ("url-filter", .string ".*")])])

/-- The text of the content rule, empty if there is none. -/
def fragment (d : Domains) : String :=
  match d.rule? with
  | none => ""
  | some rule => rule.compact

end Domains

end ContentBlocking.AllowList
