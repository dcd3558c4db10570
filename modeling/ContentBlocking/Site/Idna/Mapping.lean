import ContentBlocking.Unicode.CharSet.Table
import ContentBlocking.Unicode.Composed
import ContentBlocking.Unicode.DomainMapping

/-!
# The mapped form of domain names

Domain names are compared in their mapped form: letters are small, characters of compatibility are
replaced by those they stand for, the full stops of other scripts become dots, ignored characters
are gone, and marks are composed.
-/

namespace ContentBlocking.Idna

/-- The characters that names may hold but that mean nothing. -/
def ignored : CharSet := .ofTable Unicode.DomainMapping.ignored

/-- The characters that no name holds. -/
def disallowed : CharSet := .ofTable Unicode.DomainMapping.disallowed

/-- The characters that are replaced. -/
def replacements : List Unicode.TableEntry :=
  Unicode.TableEntry.ofTable Unicode.DomainMapping.mapped

/-- What a character is replaced by; none for one that no name holds. -/
def mapChar? (c : Char) : Option (List Char) :=
  let n := c.toNat
  if n < 0x80 then some [c.toLower]
  else if ignored.contains c then some []
  else if disallowed.contains c then none
  else
    match replacements.find? (·.has n) with
    | some e => some ((e.valuesAt n).map Char.ofNat)
    | none => some [c]

/-- The mapped form of a name. -/
def mapped? (name : List Char) : Option (List Char) := do
  return Unicode.composed (← name.mapM mapChar?).flatten

end ContentBlocking.Idna
