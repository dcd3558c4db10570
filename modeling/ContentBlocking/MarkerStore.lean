import ContentBlocking.Disk.FileTree
import ContentBlocking.Json.Reader
import ContentBlocking.Json.Writer

/-!
# Markers

A marker is a date under a name, kept from one start to the next.  A file of markers is a JSON
object of milliseconds; markers in memory keep their dates in full.
-/

namespace ContentBlocking

/-- Why a marker cannot be set. -/
inductive MarkerError
  | write (cause : IoError)
  | beforeEpoch
  deriving DecidableEq, Repr

/-- The wording of a date that has no milliseconds. -/
def MarkerError.beforeEpochMessage : String := "date is before the Unix epoch"

/-- Some markers and where they are kept. -/
inductive MarkerStore
  | file (path : String) (markers : Dict Nat)
  | memory (markers : Dict Date)

namespace MarkerStore

open Json (Value Reader)

/-- The markers in the text of a file; a text of another shape has none. -/
def markersOfText (text : String) : Dict Nat :=
  match (Reader.dict Reader.natural).run text with
  | .ok markers => markers
  | .error _ => ∅

/-- The text of a file of markers, one in a line and sorted by name. -/
def textOfMarkers (markers : Dict Nat) : String :=
  (Value.object (markers.toList.map fun m => (m.1, .nat m.2))).pretty

/-- The markers of a file; a file that cannot be read has none. -/
def openAt (path : String) (t : FileTree) : MarkerStore :=
  match t.readText path with
  | .ok text => file path (markersOfText text)
  | .error _ => file path ∅

/-- The date of a marker. -/
def date? (s : MarkerStore) (key : String) : Option Date :=
  match s with
  | file _ markers => (markers[key]?).map Date.ofMillis
  | memory markers => markers[key]?

/-- The disk with the markers of a file written to it. -/
def persist (path : String) (markers : Dict Nat) (t : FileTree) : Except IoError Unit × FileTree :=
  match t.createDirectories ((Path.parent? path).getD "") with
  | (.error e, t) => (.error e, t)
  | (.ok (), t) => t.replaceText (Path.withExtension path "tmp") path (textOfMarkers markers)

/-- The markers and the disk with a date for a marker.  A date before the epoch changes nothing; a
date that cannot be written stays in memory. -/
def setDate (s : MarkerStore) (key : String) (date : Date) (t : FileTree) :
    Except MarkerError Unit × MarkerStore × FileTree :=
  match s with
  | file path markers =>
    match date.millis? with
    | none => (.error .beforeEpoch, s, t)
    | some n =>
      let markers := markers.insert key n
      match persist path markers t with
      | (.ok (), t) => (.ok (), file path markers, t)
      | (.error e, t) => (.error (.write e), file path markers, t)
  | memory markers => (.ok (), memory (markers.insert key date), t)

end MarkerStore

end ContentBlocking
