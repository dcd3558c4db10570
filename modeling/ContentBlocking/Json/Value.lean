import ContentBlocking.Json.Binary64
import Std.Data.ExtTreeMap

/-!
# JSON values

`Json.Value` is a JSON text without its spelling.  The members of an object stand in the order in
which they are written; a value that was read without a type has them sorted by name.
-/

namespace ContentBlocking

/-- A finite map from texts, in the order of their code points. -/
abbrev Dict (α : Type) := Std.ExtTreeMap String α

namespace Json

/-- A JSON number: an integer of 64 bits or a double. -/
inductive Number
  | integer (i : Int)
  | real (negative : Bool) (magnitude : Binary64)
  deriving DecidableEq, Repr

/-- A JSON value. -/
inductive Value
  | null
  | bool (b : Bool)
  | number (n : Number)
  | string (s : String)
  | array (items : List Value)
  | object (members : List (String × Value))
  deriving Inhabited

/-- The first problem met while reading a JSON text from left to right. -/
inductive Error
  /-- The text is not JSON, or a number or a nesting is out of range. -/
  | malformed
  /-- The text ends too early. -/
  | truncated
  /-- The value is JSON but not of the expected shape. -/
  | mismatched
  deriving DecidableEq, Repr, Inhabited

namespace Value

/-- The value of a natural number. -/
def nat (n : Nat) : Value := .number (.integer n)

/-- The value of an optional text. -/
def optional : Option String → Value
  | none => .null
  | some s => .string s

/-- The value of a list of texts. -/
def strings (ss : List String) : Value := .array (ss.map .string)

/-- The member of an object with this name. -/
def get? (v : Value) (name : String) : Option Value :=
  match v with
  | .object members => (members.find? fun m => m.1 == name).map Prod.snd
  | _ => none

/-- The text of a string value. -/
def string? : Value → Option String
  | .string s => some s
  | _ => none

/-- The members of an object. -/
def members? : Value → Option (List (String × Value))
  | .object members => some members
  | _ => none

end Value

end Json

end ContentBlocking
