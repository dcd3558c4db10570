import ContentBlocking.DomainPattern
import ContentBlocking.Site
import ContentBlocking.Tracker
import ContentBlocking.Url

/-!
# Tracker databases

A tracker database names for each domain the application that it serves, and for each application a
category.  `TrackerTable.ofText` keeps the domains whose application has a known category, and
`TrackerTable.lookup` finds the tracker behind a URL by the site of its host.
-/

namespace ContentBlocking

/-- The trackers by domain. -/
structure TrackerTable where
  trackers : Dict Tracker

namespace TrackerTable

open Json (Value Reader)

/-- Why a text is no tracker database. -/
inductive Error
  | json (e : Json.Error)
  /-- A part of the database is missing or no object. -/
  | missingSection (name : String)
  deriving DecidableEq, Repr

/-- The wording of a missing section. -/
def missingSectionMessage (name : String) : String :=
  "tracker database has no '" ++ name ++ "' object"

/-- The raw category of the application with this identifier, given all applications. -/
def rawCategory? (apps : List (String × Value)) (id : String) : Option String := do
  let app ← (apps.find? fun a => a.1 == id).map Prod.snd
  (← app.get? "cat").string?

/-- The identifier that a domain refers to: a text, or the JSON of any other value. -/
def appId : Value → String
  | .string id => id
  | v => v.compact

/-- The table with the tracker of one more domain, if its application has a known category. -/
def insertDomain (apps : List (String × Value)) (t : TrackerTable) (domain : String × Value) :
    TrackerTable :=
  let id := appId domain.2
  match (rawCategory? apps id).bind Category.ofRaw? with
  | some category => ⟨t.trackers.insert (Text.lower domain.1) ⟨category, id⟩⟩
  | none => t

/-- The object in a section of the database. -/
def section? (root : Value) (name : String) : Except Error (List (String × Value)) :=
  match (root.get? name).bind Value.members? with
  | some members => .ok members
  | none => .error (.missingSection name)

/-- The table of a database. -/
def ofText (text : String) : Except Error TrackerTable := do
  let root ← match Reader.any.run text with
    | .ok root => .ok root
    | .error e => .error (.json e)
  let apps ← section? root "apps"
  let domains ← section? root "domains"
  return domains.foldl (insertDomain apps) ⟨∅⟩

/-- The number of domains. -/
def size (t : TrackerTable) : Nat := t.trackers.size

/-- The tracker of exactly this domain. -/
def get? (t : TrackerTable) (domain : String) : Option Tracker := t.trackers[domain]?

/-- The tracker behind a URL, unless one of the patterns matches its site. -/
def lookup (t : TrackerTable) (suffixes : Option SuffixList) (url : String)
    (patterns : List String) : Option Tracker := do
  let host ← Url.normalizedHost? url
  let site := Site.ofHost suffixes host
  let tracker ← t.get? site
  if DomainPattern.matchesAny patterns site then none else some tracker

end TrackerTable

end ContentBlocking
