import ContentBlocking.Disk.FileTree
import ContentBlocking.Rule.List

/-!
# Stores of compiled rule lists

A store keeps the rule lists that compiled, each under its identifier, in the files of a directory
or in memory.  A list that does not compile leaves the store alone.
-/

namespace ContentBlocking

/-- Why an operation on a store fails. -/
inductive StoreError
  | notFound (id : String)
  /-- The source is no valid rule list. -/
  | compile (id : String) (cause : RuleError)
  /-- The stored text is no rule list. -/
  | corrupt (id : String) (cause : Json.Error)
  | io (id : String) (cause : IoError)
  deriving DecidableEq, Repr

/-- The wording of a missing list. -/
def StoreError.notFoundMessage (id : String) : String :=
  "rule list '" ++ id ++ "' is not in the store"

/-- The rules of a source that is compiled under an identifier. -/
def compileSource (id source : String) : Except StoreError (List Rule) :=
  match RuleList.ofText source with
  | .ok rules => .ok rules
  | .error e => .error (.compile id e)

/-- The compiled lists and where they are kept. -/
inductive RuleStore
  /-- Each list in a file of its own. -/
  | directory (path : String)
  /-- The lists, and how many compilations succeeded. -/
  | memory (lists : Dict (List Rule)) (compilations : Nat)

namespace RuleStore

/-! ### Lists in a directory -/

/-- The extension of the files of lists. -/
def extension : String := "json"

/-- The file of a list. -/
def filePath (dir id : String) : String := Path.join dir (id ++ "." ++ extension)

/-- The disk with a list compiled into a directory. -/
def compileInto (dir id source : String) (t : FileTree) :
    Except StoreError (List Rule) × FileTree :=
  match compileSource id source with
  | .error e => (.error e, t)
  | .ok rules =>
    match t.createDirectories dir with
    | (.error e, t) => (.error (.io id e), t)
    | (.ok (), t) =>
      let path := filePath dir id
      match t.replaceText (Path.withExtension path (extension ++ ".tmp")) path
          (RuleList.text rules) with
      | (.error e, t) => (.error (.io id e), t)
      | (.ok (), t) => (.ok rules, t)

/-- The rules of a list in a directory. -/
def lookupIn (dir id : String) (t : FileTree) : Except StoreError (List Rule) :=
  match t.readText (filePath dir id) with
  | .error .notFound => .error (.notFound id)
  | .error e => .error (.io id e)
  | .ok text =>
    match RuleList.read text with
    | .ok rules => .ok rules
    | .error e => .error (.corrupt id e)

/-- The identifiers of the lists in a directory, sorted; a missing directory has none. -/
def identifiersIn (dir : String) (t : FileTree) : Except StoreError (List String) :=
  match t.list dir with
  | .error .notFound => .ok []
  | .error e => .error (.io "*" e)
  | .ok names =>
    let ids := (names.filter fun n => Path.extension? n == some extension).map Path.stem
    .ok (ids.mergeSort fun a b => decide (a ≤ b))

/-- The disk without the list of a directory. -/
def removeFrom (dir id : String) (t : FileTree) : Except StoreError Unit × FileTree :=
  match t.removeFile (filePath dir id) with
  | .ok t => (.ok (), t)
  | .error .notFound => (.error (.notFound id), t)
  | .error e => (.error (.io id e), t)

/-! ### Lists in either place -/

/-- The store and the disk with a list compiled under an identifier, and its rules. -/
def compile (s : RuleStore) (id source : String) (t : FileTree) :
    Except StoreError (List Rule) × RuleStore × FileTree :=
  match s with
  | directory dir =>
    let (r, t) := compileInto dir id source t
    (r, directory dir, t)
  | memory lists n =>
    match compileSource id source with
    | .ok rules => (.ok rules, memory (lists.insert id rules) (n + 1), t)
    | .error e => (.error e, s, t)

/-- The rules of a stored list. -/
def lookup (s : RuleStore) (id : String) (t : FileTree) : Except StoreError (List Rule) :=
  match s with
  | directory dir => lookupIn dir id t
  | memory lists _ =>
    match lists[id]? with
    | some rules => .ok rules
    | none => .error (.notFound id)

/-- The identifiers of the stored lists, sorted. -/
def identifiers (s : RuleStore) (t : FileTree) : Except StoreError (List String) :=
  match s with
  | directory dir => identifiersIn dir t
  | memory lists _ => .ok lists.keys

/-- The store and the disk without a list. -/
def remove (s : RuleStore) (id : String) (t : FileTree) :
    Except StoreError Unit × RuleStore × FileTree :=
  match s with
  | directory dir =>
    let (r, t) := removeFrom dir id t
    (r, directory dir, t)
  | memory lists n =>
    if lists.contains id then (.ok (), memory (lists.erase id) n, t)
    else (.error (.notFound id), s, t)

/-- How many compilations into memory succeeded. -/
def compilations? : RuleStore → Option Nat
  | directory _ => none
  | memory _ n => some n

end RuleStore

end ContentBlocking
