import ContentBlocking.Text.Measure

/-!
# The kinds of allow-list

Each kind of blocking has an allow-list of its own, kept in a file of its own.
-/

namespace ContentBlocking.AllowList

/-- The kind of blocking that an allow-list exempts its hosts from. -/
inductive Kind
  | ads
  | tracking
  | popups
  deriving DecidableEq, Repr

namespace Kind

/-- Every kind, in the order in which they are listed. -/
def all : List Kind :=
  [ads, tracking, popups]

/-- The name of a kind on the command line and in JSON. -/
def name : Kind → String
  | ads => "ads"
  | tracking => "tracking"
  | popups => "popups"

/-- The file that keeps the allow-list of a kind. -/
def filename : Kind → String
  | ads => "ads_whitelist"
  | tracking => "whitelist"
  | popups => "popups_whitelist"

/-- The kind with this name. -/
def ofName? (name : String) : Option Kind :=
  all.find? fun k => k.name == name

/-- A text that names no kind. -/
structure Unknown where
  /-- The text, in small letters. -/
  name : String
  deriving DecidableEq, Repr

/-- The wording of an unknown kind. -/
def Unknown.message (e : Unknown) : String :=
  "unknown allow-list kind '" ++ e.name ++ "'"

/-- The kind that a text names, in small or capital letters. -/
def ofText (text : String) : Except Unknown Kind :=
  match ofName? (Text.lower text) with
  | some k => .ok k
  | none => .error ⟨Text.lower text⟩

end Kind

end ContentBlocking.AllowList
