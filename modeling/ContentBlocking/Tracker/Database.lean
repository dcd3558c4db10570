import ContentBlocking.Bundle
import ContentBlocking.Tracker.Table

/-!
# The tracker database of a process

A database is published once.  Until then nothing is known about any URL, and later loads are
ignored.
-/

namespace ContentBlocking

/-- A tracker database that may still have to be published. -/
structure TrackerDatabase where
  table : Option TrackerTable

namespace TrackerDatabase

/-- The database before its publication. -/
def unpublished : TrackerDatabase := ⟨none⟩

/-- The database with a table, unless it has one. -/
def publish (d : TrackerDatabase) (t : TrackerTable) : TrackerDatabase := ⟨d.table.or (some t)⟩

/-- The table in a resource, if it can be read. -/
def load? (b : Bundle) (disk : FileTree) (resource : String) : Option TrackerTable :=
  match b.read disk resource with
  | .error _ => none
  | .ok text => (TrackerTable.ofText text).toOption

/-- The database after an attempt to publish the table in a resource. -/
def startup (d : TrackerDatabase) (b : Bundle) (disk : FileTree) (resource : String) :
    TrackerDatabase :=
  match load? b disk resource with
  | some t => d.publish t
  | none => d

/-- Whether the database is published. -/
def isReady (d : TrackerDatabase) : Bool := d.table.isSome

/-- The number of domains. -/
def size (d : TrackerDatabase) : Nat := (d.table.map TrackerTable.size).getD 0

/-- The table to ask about a URL, if there is anything to ask. -/
def askFor? (d : TrackerDatabase) (url : String) : Option TrackerTable :=
  if (Url.normalizedHost? url).isSome then d.table else none

/-- The tracker behind a URL, unless one of the patterns matches its site. -/
def classify (d : TrackerDatabase) (suffixes : Option SuffixList) (url : String)
    (patterns : List String) : Option Tracker :=
  (d.askFor? url).bind fun t => t.lookup suffixes url patterns

end TrackerDatabase

end ContentBlocking
