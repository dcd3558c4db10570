import ContentBlocking.Regex.Pattern
import ContentBlocking.Regex.Search

/-!
# Patterns for domains

Content rules name domains by wildcards such as `*example.com`, which stands for the domain and all
its subdomains.  `DomainPattern.ofWildcard` writes a wildcard as a regular expression.
-/

namespace ContentBlocking.DomainPattern

/-- A text in which no character has a meaning of its own. -/
def escape (cs : List Char) : List Char :=
  cs.flatMap fun c => if Regex.isMeta c then ['\\', c] else [c]

/-- The characters of the pattern of a wildcard. -/
def charsOfWildcard (domain : List Char) : List Char :=
  match domain with
  | '*' :: rest => "^(.*\\.)?".toList ++ escape (rest.dropWhile (· == '.')) ++ ['$']
  | domain => '^' :: escape domain ++ ['$']

/-- The pattern of a wildcard: anchored at both ends, and with a star in front it also matches what
ends in a dot and the rest, whose leading dots do not count. -/
def ofWildcard (domain : String) : String :=
  String.ofList (charsOfWildcard domain.toList)

/-- Whether one of several regular expressions matches somewhere in a text. -/
def anyMatches (regexes : List Regex) (text : String) : Bool :=
  regexes.any (·.isMatch text)

/-- Whether one of several patterns is valid and matches somewhere in a text. -/
def matchesAny (patterns : List String) (text : String) : Bool :=
  anyMatches (patterns.filterMap Regex.ofPattern?) text

end ContentBlocking.DomainPattern
