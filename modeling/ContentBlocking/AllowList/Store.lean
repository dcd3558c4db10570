import ContentBlocking.AllowList.Domains
import ContentBlocking.Blocklist
import ContentBlocking.Disk.FileTree
import ContentBlocking.Url

/-!
# Allow-list stores

An allow-list is kept in memory and written to its file after each edit.  The set in memory is what
counts: a file that cannot be read counts as empty, and a write that fails leaves the set alone.
-/

namespace ContentBlocking.AllowList

/-- The allow-list of a kind and the file that backs it, if there is one. -/
structure Store where
  kind : Kind
  path : Option String
  domains : Domains

namespace Store

/-- The domains in the text of a file, one in a line and without blanks around it. -/
def domainsOfText (text : String) : Domains :=
  .ofList (((Text.lines text.toList).map Text.trim).filter (· ≠ []) |>.map String.ofList)

/-- The text of a file that holds some domains. -/
def textOfDomains (d : Domains) : String :=
  String.ofList (Text.joinWith '\n' (d.toList.map String.toList))

/-- The store that is backed by a file in a directory of documents. -/
def openAt (kind : Kind) (documents : String) (t : FileTree) : Store :=
  let path := Path.join documents kind.filename
  let domains := match t.readText path with
    | .ok text => domainsOfText text
    | .error _ => .empty
  ⟨kind, some path, domains⟩

/-- The store that no file backs. -/
def inMemory (kind : Kind) : Store := ⟨kind, none, .empty⟩

/-- Whether the host of a URL is on the list; a URL without a host never is. -/
def isAllowListed (s : Store) (url : String) : Bool :=
  match Url.normalizedHost? url with
  | some host => s.domains.contains host
  | none => false

/-- The disk with the list written to its file; an empty list has no file. -/
def persist (s : Store) (t : FileTree) : Except IoError Unit × FileTree :=
  match s.path with
  | none => (.ok (), t)
  | some path =>
    if s.domains.isEmpty then
      match t.removeFile path with
      | .ok t => (.ok (), t)
      | .error .notFound => (.ok (), t)
      | .error e => (.error e, t)
    else t.replaceText (Path.withExtension path "tmp") path (textOfDomains s.domains)

/-- The disk after an attempt to write the list to its file. -/
def save (s : Store) (t : FileTree) : FileTree := (s.persist t).2

/-- The store with the host of a URL put on the list or taken off it. -/
def edit (s : Store) (enabled : Bool) (url : String) : Option Store :=
  (Url.normalizedHost? url).map fun host =>
    { s with domains := if enabled then s.domains.insert host else s.domains.erase host }

/-- The store and the disk after an edit, and the rule lists to compile again; none if the URL has
no host and nothing was done. -/
def setAllowListed (s : Store) (enabled : Bool) (url : String) (t : FileTree) :
    Option (List Blocklist) × Store × FileTree :=
  match s.edit enabled url with
  | some s => (some s.kind.dependents, s, s.save t)
  | none => (none, s, t)

end Store

end ContentBlocking.AllowList
