import ContentBlocking.Date
import ContentBlocking.Disk.Path
import Std.Data.ExtTreeMap

/-!
# File trees

A `FileTree` holds the directories and files of a disk.  An operation on it names its files by
paths; it either succeeds or fails with the reason that the disk gives, and a single write or
renaming takes effect as a whole.
-/

namespace ContentBlocking

/-- What a file holds. -/
inductive Content
  | text (s : String)
  /-- Bytes that are no text in UTF-8. -/
  | binary (bytes : List UInt8)
  deriving DecidableEq, Repr

/-- The content of a file with these bytes. -/
def Content.ofBytes (bytes : ByteArray) : Content :=
  match String.fromUTF8? bytes with
  | some s => .text s
  | none => .binary bytes.toList

/-- The bytes of a file. -/
def Content.bytes : Content → ByteArray
  | text s => s.toUTF8
  | binary bytes => ⟨bytes.toArray⟩

/-- An entry of a directory. -/
inductive Entry
  | directory
  | file (content : Content) (modified : Date)
  deriving DecidableEq, Repr

/-- Why an operation on files fails. -/
inductive IoError
  | notFound
  | isDirectory
  | notDirectory
  | nameTooLong
  /-- A name with a NUL character. -/
  | invalidName
  /-- The content of a file is no text. -/
  | notText
  /-- There is an entry already. -/
  | exists
  deriving DecidableEq, Repr

/-- The wording of an error. -/
def IoError.message : IoError → String
  | notFound => "No such file or directory (os error 2)"
  | isDirectory => "Is a directory (os error 21)"
  | notDirectory => "Not a directory (os error 20)"
  | nameTooLong => "File name too long (os error 36)"
  | invalidName => "file name contained an unexpected NUL byte"
  | notText => "stream did not contain valid UTF-8"
  | «exists» => "File exists (os error 17)"

/-- The place of an entry: the names on the way from the root of the tree. -/
abbrev Place := List String

/-- The entries of a disk.  Relative paths start at the directory `home`, and new files are dated
`now`. -/
structure FileTree where
  entries : Std.ExtTreeMap Place Entry
  home : Place
  now : Date

namespace FileTree

/-- The greatest number of bytes in a name. -/
def maxNameLength : Nat := 255

/-- The greatest number of bytes in a path. -/
def maxPathLength : Nat := 4095

/-- The entry at a place; the root is a directory. -/
def entry? (t : FileTree) (p : Place) : Option Entry :=
  if p = [] then some .directory else t.entries[p]?

/-- The tree with an entry at a place. -/
def put (t : FileTree) (p : Place) (e : Entry) : FileTree :=
  { t with entries := t.entries.insert p e }

/-- The tree without the entry at a place. -/
def drop (t : FileTree) (p : Place) : FileTree :=
  { t with entries := t.entries.erase p }

/-- The place that some parts of a path lead to from the place `p`.  Each part but the last must
lead to a directory, and the last may lead to nothing. -/
def follow (t : FileTree) (p : Place) : List (List Char) → Except IoError Place
  | [] => .ok p
  | part :: parts =>
    match t.entry? p with
    | none => .error .notFound
    | some (.file ..) => .error .notDirectory
    | some .directory =>
      if part = [] ∨ part = ['.'] then follow t p parts
      else if part = ['.', '.'] then follow t p.dropLast parts
      else
        let name := String.ofList part
        if maxNameLength < name.utf8ByteSize then .error .nameTooLong
        else follow t (p ++ [name]) parts

/-- The place that a path names. -/
def resolve (t : FileTree) (path : String) : Except IoError Place :=
  if path.isEmpty then .error .notFound
  else if path.toList.contains '\x00' then .error .invalidName
  else if maxPathLength < path.utf8ByteSize then .error .nameTooLong
  else t.follow (if path.startsWith "/" then [] else t.home) (Path.parts path)

/-! ### Reading -/

/-- The entry that a path names. -/
def stat (t : FileTree) (path : String) : Except IoError Entry := do
  match t.entry? (← t.resolve path) with
  | some e => return e
  | none => throw .notFound

/-- Whether a path names a directory. -/
def isDirectory (t : FileTree) (path : String) : Bool :=
  match t.stat path with
  | .ok .directory => true
  | _ => false

/-- The text of a file. -/
def readText (t : FileTree) (path : String) : Except IoError String := do
  match ← t.stat path with
  | .directory => throw .isDirectory
  | .file (.text s) _ => return s
  | .file (.binary _) _ => throw .notText

/-- When an entry was modified. -/
def modified (t : FileTree) (path : String) : Except IoError Date := do
  match ← t.stat path with
  | .directory => return t.now
  | .file _ date => return date

/-- The names of the entries of the directory at a place. -/
def children (t : FileTree) (p : Place) : List String :=
  t.entries.keys.filterMap fun q => if q.dropLast = p then q.getLast? else none

/-- The names of the entries of a directory. -/
def list (t : FileTree) (path : String) : Except IoError (List String) := do
  let p ← t.resolve path
  match t.entry? p with
  | some .directory => return t.children p
  | some (.file ..) => throw .notDirectory
  | none => throw .notFound

/-! ### Writing -/

/-- The tree with a text written to a file, and whether that succeeds. -/
def writeText (t : FileTree) (path text : String) : Except IoError FileTree := do
  let p ← t.resolve path
  match t.entry? p with
  | some .directory => throw .isDirectory
  | _ => return t.put p (.file (.text text) t.now)

/-- The tree with a file moved to a path, in the place of the file there. -/
def rename (t : FileTree) (source target : String) : Except IoError FileTree := do
  let p ← t.resolve source
  match t.entry? p with
  | none => throw .notFound
  | some .directory => throw .isDirectory
  | some (.file content date) =>
    let q ← t.resolve target
    match t.entry? q with
    | some .directory => throw .isDirectory
    | _ => return (t.drop p).put q (.file content date)

/-- The tree without a file. -/
def removeFile (t : FileTree) (path : String) : Except IoError FileTree := do
  let p ← t.resolve path
  match t.entry? p with
  | none => throw .notFound
  | some .directory => throw .isDirectory
  | some (.file ..) => return t.drop p

/-- The tree with a new directory in an existing one; slashes may end its path, and the limit on
paths counts them. -/
def createDirectory (t : FileTree) (path : String) : Except IoError FileTree :=
  if maxPathLength < path.utf8ByteSize ∧ '\x00' ∉ path.toList then .error .nameTooLong
  else do
    let p ← t.resolve (Path.withoutSlashes path)
    match t.entry? p with
    | none => return t.put p .directory
    | some _ => throw .exists

/-- The tree with a directory and those above it, each made if it is missing; `fuel` bounds how many
there are. -/
def createAll (t : FileTree) (path : String) : Nat → Except IoError Unit × FileTree
  | 0 => (.ok (), t)
  | fuel + 1 =>
    if path.isEmpty then (.ok (), t) else
    match t.createDirectory path with
    | .ok t => (.ok (), t)
    | .error .notFound =>
      match Path.parent? path with
      | none => (.error .notFound, t)
      | some parent =>
        match createAll t parent fuel with
        | (.error e, t) => (.error e, t)
        | (.ok (), t) => settle t path (t.createDirectory path)
    | .error e => settle t path (.error e)
where
  /-- The outcome of making a directory, which is no failure if the directory is there. -/
  settle (t : FileTree) (path : String) : Except IoError FileTree → Except IoError Unit × FileTree
    | .ok t => (.ok (), t)
    | .error e => if t.isDirectory path then (.ok (), t) else (.error e, t)

/-- The tree with a directory and those above it, each made if it is missing.  Directories that were
made before a failure stay. -/
def createDirectories (t : FileTree) (path : String) : Except IoError Unit × FileTree :=
  t.createAll path (path.length + 1)

/-- The tree with a text first written to a file beside the target and then moved to it, so that a
reader of the target never sees a part of the text. -/
def replaceText (t : FileTree) (beside target text : String) : Except IoError Unit × FileTree :=
  match t.writeText beside text with
  | .error e => (.error e, t)
  | .ok t =>
    match t.rename beside target with
    | .error e => (.error e, t)
    | .ok t => (.ok (), t)

/-! ### Whole trees -/

/-- The tree without entries but its home. -/
def empty (home : Place) (now : Date) : FileTree :=
  { entries := (List.range home.length).foldl
      (fun m n => m.insert (home.take (n + 1)) .directory) ∅
    home, now }

/-- The tree with an entry at a path below its home, and with the directories above it. -/
def place (t : FileTree) (path : String) (e : Entry) : FileTree :=
  let names := ((Path.parts path).filter Path.isName).map String.ofList
  let t := (List.range (names.length - 1)).foldl
    (fun (t : FileTree) n =>
      let p := t.home ++ names.take (n + 1)
      if (t.entry? p).isSome then t else t.put p .directory) t
  if names = [] then t else t.put (t.home ++ names) e

/-- The tree without the entry at a path below its home and all below it. -/
def remove (t : FileTree) (path : String) : FileTree :=
  let p := t.home ++ ((Path.parts path).filter Path.isName).map String.ofList
  { t with entries := t.entries.filter fun q _ => !p.isPrefixOf q }

/-- The files and the empty directories below the home, by their relative paths. -/
def snapshot (t : FileTree) : List (String × Entry) :=
  t.entries.toList.filterMap fun (p, e) =>
    if t.home.isPrefixOf p ∧ p ≠ t.home then
      let path := "/".intercalate (p.drop t.home.length)
      match e with
      | .directory => if (t.children p).isEmpty then some (path, e) else none
      | .file .. => some (path, e)
    else none

end FileTree

end ContentBlocking
