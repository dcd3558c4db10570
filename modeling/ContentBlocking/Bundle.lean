import ContentBlocking.Disk.FileTree
import ContentBlocking.Json.Value

/-!
# Bundled resources

The rule lists and the tracker database come as named texts, from a directory or from memory.
-/

namespace ContentBlocking

/-- Where the resources come from. -/
inductive Bundle
  /-- The files of a directory. -/
  | directory (root : String)
  /-- Texts with the dates of their last change. -/
  | memory (resources : Dict (String × Date))

/-- Why a resource cannot be read. -/
inductive BundleError
  | notFound (name : String)
  | io (name : String) (cause : IoError)
  deriving DecidableEq, Repr

/-- The wording of an error. -/
def BundleError.message : BundleError → String
  | notFound name => "resource '" ++ name ++ "' is not in the bundle"
  | io name cause => "failed to read resource '" ++ name ++ "': " ++ cause.message

namespace Bundle

/-- The file of a resource in a directory. -/
def filename (name : String) : String := name ++ ".json"

/-- The file of a resource as it is seen from the directory. -/
def fileBelow (name : String) : String := Path.below (filename name)

/-- The text of a resource. -/
def read (b : Bundle) (t : FileTree) (name : String) : Except BundleError String :=
  match b with
  | directory root =>
    match t.readText (Path.join root (filename name)) with
    | .ok text => .ok text
    | .error .notFound => .error (.notFound name)
    | .error e => .error (.io name e)
  | memory resources =>
    match resources[name]? with
    | some (text, _) => .ok text
    | none => .error (.notFound name)

/-- When a resource was changed, if that is known. -/
def modified? (b : Bundle) (t : FileTree) (name : String) : Option Date :=
  match b with
  | directory root => (t.modified (Path.join root (filename name))).toOption
  | memory resources => (resources[name]?).map Prod.snd

/-- The bundle in memory with one more resource; those in a directory are the disk's affair. -/
def insert (b : Bundle) (name text : String) (date : Date) : Bundle :=
  match b with
  | directory root => directory root
  | memory resources => memory (resources.insert name (text, date))

end Bundle

end ContentBlocking
