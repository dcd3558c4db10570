import ContentBlocking.Unicode.Age
import ContentBlocking.Unicode.CharSet.Table
import ContentBlocking.Unicode.GeneralCategory
import ContentBlocking.Unicode.Property
import ContentBlocking.Unicode.Script
import ContentBlocking.Unicode.ScriptExtension
import ContentBlocking.Unicode.Segmentation

/-!
# Named sets of characters

`CharSet.named?` finds the sets that Unicode names by a binary property, a general category or a
script, and `CharSet.valued?` those of the characters for which a property has a value.
-/

namespace ContentBlocking.CharSet

/-- A name of Unicode as it is compared: small letters without blanks, hyphens and underscores, and
without an `is` in front. -/
def normalizeName (name : List Char) : List Char :=
  let hasIs := match name with
    | a :: b :: _ => (a == 'i' || a == 'I') && (b == 's' || b == 'S')
    | _ => false
  let bare := if hasIs then name.drop 2 else name
  let kept := bare.filter fun c => !(c == ' ' || c == '_' || c == '-') && c.toNat < 0x80
  let folded := kept.map Char.toLower
  if hasIs && folded == ['c'] then ['i', 's', 'c'] else folded

/-- The table of a name. -/
def table? (tables : List (List String × List String)) (name : String) : Option (List String) :=
  (tables.find? (·.1.contains name)).map (·.2)

/-! ### General categories -/

/-- The set of one general category that has characters of its own. -/
def leafCategory? (name : String) : Option CharSet :=
  (Unicode.GeneralCategory.tables.find? fun t => t.1 == name || t.2.1.contains name).map
    fun t => ofTable t.2.2

/-- The characters that have one of several general categories. -/
def ofCategories (names : List String) : CharSet :=
  .ofRanges (names.flatMap fun name => ((leafCategory? name).getD empty).ranges)

/-- The characters to which Unicode has assigned a general category. -/
def assigned : CharSet := ofTables (Unicode.GeneralCategory.tables.map (·.2.2))

/-- The code points that are no characters of their own. -/
def surrogates : CharSet := range 0xD800 0xDFFF

/-- The set of a general category or of a group of them. -/
def category? (name : String) : Option CharSet :=
  if name == "any" then some all
  else if name == "ascii" then some (range 0 0x7F)
  else if name == "assigned" then some assigned
  else if name == "cn" || name == "unassigned" then some assigned.complement
  else if name == "c" || name == "other" then
    some (((ofCategories ["cc", "cf", "co"]).union assigned.complement).union surrogates)
  else
    match Unicode.GeneralCategory.groups.find? fun g => g.1.contains name with
    | some g => some (ofCategories g.2)
    | none => leafCategory? name

/-! ### Other properties -/

/-- The set of a script. -/
def script? (name : String) : Option CharSet :=
  (table? Unicode.Script.tables name).map ofTable

/-- The set of the characters that are used in a script, which are those of the script itself
unless it shares characters with others. -/
def scriptExtension? (name : String) : Option CharSet :=
  ((table? Unicode.ScriptExtension.tables name).map ofTable).or (script? name)

/-- The set of a binary property. -/
def property? (name : String) : Option CharSet :=
  (table? Unicode.Property.tables name).map ofTable

/-- The characters that a version of Unicode has. -/
def age? (version : String) : Option CharSet :=
  let tables := Unicode.Age.tables
  if tables.any (·.1.contains version) then
    let older := tables.takeWhile fun t => !t.1.contains version
    some (ofTables ((tables.take (older.length + 1)).map (·.2)))
  else none

/-- The set that a name alone stands for. -/
def named? (name : List Char) : Option CharSet :=
  let name := String.ofList (normalizeName name)
  (property? name).or ((category? name).or (script? name))

/-- The set of the characters for which a property has a value. -/
def valued? (property value : List Char) : Option CharSet :=
  let property := String.ofList (normalizeName property)
  let value := String.ofList (normalizeName value)
  if property == "gc" || property == "generalcategory" then category? value
  else if property == "sc" || property == "script" then script? value
  else if property == "scx" || property == "scriptextensions" then scriptExtension? value
  else if property == "age" then age? value
  else if property == "gcb" || property == "graphemeclusterbreak" then
    (table? Unicode.Segmentation.graphemes value).map ofTable
  else if property == "wb" || property == "wordbreak" then
    (table? Unicode.Segmentation.words value).map ofTable
  else if property == "sb" || property == "sentencebreak" then
    (table? Unicode.Segmentation.sentences value).map ofTable
  else none

/-! ### Common sets -/

/-- Letters. -/
def alphabetic : CharSet := (property? "alphabetic").getD empty

/-- Letters and numbers. -/
def alphanumeric : CharSet := alphabetic.union (ofCategories ["nd", "nl", "no"])

/-- Marks, which belong to the character before them. -/
def marks : CharSet := ofCategories ["mn", "mc", "me"]

/-- The characters of words: letters, marks, digits, connectors and joiners. -/
def word : CharSet :=
  alphabetic.union ((marks.union (ofCategories ["nd", "pc"])).union
    ((property? "joincontrol").getD empty))

/-- The decimal digits of all scripts. -/
def digit : CharSet := ofCategories ["nd"]

/-- White space. -/
def space : CharSet := (property? "whitespace").getD empty

/-- Letters and digits of words in ASCII. -/
def asciiWord : CharSet := ⟨[(0x30, 0x39), (0x41, 0x5A), (0x5F, 0x5F), (0x61, 0x7A)]⟩

end ContentBlocking.CharSet
