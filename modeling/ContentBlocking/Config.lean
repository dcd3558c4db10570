import ContentBlocking.Disk.FileTree
import ContentBlocking.Json.Reader
import ContentBlocking.Json.Writer

/-!
# Configuration

Where a blocker finds its resources and keeps its state.  A configuration file is a JSON object; a
member that it lacks takes its default.
-/

namespace ContentBlocking

/-- The files and directories of a blocker. -/
structure Config where
  /-- The directory of the bundled lists and the tracker database. -/
  resources : String
  /-- The directory of the allow-lists. -/
  documents : String
  /-- The directory of the compiled lists. -/
  store : String
  /-- The file of the markers. -/
  markers : String
  /-- The resource with the tracker database. -/
  trackerDatabase : String
  /-- The file of a public suffix list. -/
  suffixList : Option String
  deriving DecidableEq, Repr

namespace Config

open Json (Value Reader Slot)

/-- The default configuration. -/
def standard : Config :=
  { resources := "resources"
    documents := "documents"
    store := "documents/compiled-rules"
    markers := "documents/markers.json"
    trackerDatabase := "tracker_db_v2"
    suffixList := none }

/-- The configuration that keeps all state in one directory. -/
def withRoot (resources state : String) : Config :=
  { standard with
    resources
    documents := state
    store := Path.join state "compiled-rules"
    markers := Path.join state "markers.json" }

/-- The JSON form of a configuration, its members in this order. -/
def toJson (c : Config) : Value :=
  .object [("resources_dir", .string c.resources), ("documents_dir", .string c.documents),
    ("store_dir", .string c.store), ("marker_path", .string c.markers),
    ("tracker_db_resource", .string c.trackerDatabase), ("psl_path", .optional c.suffixList)]

/-- The places of a configuration while it is read. -/
structure Draft where
  resources : Option String
  documents : Option String
  store : Option String
  markers : Option String
  trackerDatabase : Option String
  suffixList : Option (Option String)

/-- The members of a configuration. -/
def slots : List (Slot Draft) :=
  [.of "resources_dir" Draft.resources (fun d v => { d with resources := some v }) Reader.string,
    .of "documents_dir" Draft.documents (fun d v => { d with documents := some v }) Reader.string,
    .of "store_dir" Draft.store (fun d v => { d with store := some v }) Reader.string,
    .of "marker_path" Draft.markers (fun d v => { d with markers := some v }) Reader.string,
    .of "tracker_db_resource" Draft.trackerDatabase
      (fun d v => { d with trackerDatabase := some v }) Reader.string,
    .of "psl_path" Draft.suffixList (fun d v => { d with suffixList := some v })
      (Reader.optional Reader.string)]

/-- A configuration in JSON. -/
def reader : Reader Config := fun node => do
  let d ← Reader.fields slots ⟨none, none, none, none, none, none⟩ node
  return {
    resources := d.resources.getD standard.resources
    documents := d.documents.getD standard.documents
    store := d.store.getD standard.store
    markers := d.markers.getD standard.markers
    trackerDatabase := d.trackerDatabase.getD standard.trackerDatabase
    suffixList := d.suffixList.getD standard.suffixList }

/-- Why a configuration file is of no use. -/
inductive Error
  | read (path : String) (cause : IoError)
  | invalid (path : String) (cause : Json.Error)
  deriving DecidableEq, Repr

/-- The wording of an error, up to the wording of JSON errors. -/
def Error.message : Error → String
  | read path cause => "failed to read config " ++ path ++ ": " ++ cause.message
  | invalid path _ => "invalid config " ++ path

/-- The configuration in a file. -/
def load (path : String) (t : FileTree) : Except Error Config :=
  match t.readText path with
  | .error e => .error (.read path e)
  | .ok text =>
    match reader.run text with
    | .ok c => .ok c
    | .error e => .error (.invalid path e)

end Config

end ContentBlocking
