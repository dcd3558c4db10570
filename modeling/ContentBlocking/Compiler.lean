import ContentBlocking.Blocklist
import ContentBlocking.Bundle
import ContentBlocking.MarkerStore
import ContentBlocking.Rule.Store

/-!
# Keeping the compiled lists up to date

A `Compiler` holds a bundle, a rule store and markers.  `Compiler.startup` purges a store that is
older than the bundle or that holds unknown lists and compiles what is missing;
`Compiler.invalidate` drops some lists and compiles them again; `Compiler.reinstall` puts compiled
lists on a host.  A bundled list that cannot be read is a defect of the bundle and ends the program.
-/

namespace ContentBlocking

/-- A bundled list that is unusable. -/
inductive BrokenList
  | unavailable (list : Blocklist) (cause : BundleError)
  | malformed (list : Blocklist) (cause : Json.Error)
  deriving DecidableEq, Repr

/-- The wording of a broken list, up to the wording of JSON errors. -/
def BrokenList.message : BrokenList → String
  | unavailable l e => "bundled rule list " ++ l.filename ++ " is unavailable: " ++ e.message
  | malformed l _ => "bundled rule list " ++ l.filename ++ " is malformed"

/-- The allow-list rules to add to the lists of each kind. -/
abbrev AllowRules := AllowList.Kind → Option Json.Value

/-- What became of the lists in one pass, each part in the order of the lists. -/
structure CompileReport where
  compiled : List Blocklist
  alreadyInstalled : List Blocklist
  failed : List Blocklist
  deriving DecidableEq, Repr

/-- What has rule lists installed, usually a tab. -/
structure Host where
  /-- The identifiers of the lists, in the order of their installation. -/
  installed : List String
  /-- How often all lists were taken off. -/
  uninstalls : Nat
  deriving DecidableEq, Repr

/-- The host that had no lists yet. -/
def Host.empty : Host := ⟨[], 0⟩

/-- A bundle, a rule store and markers, with the disk that some of them are on. -/
structure Compiler where
  bundle : Bundle
  store : RuleStore
  markers : MarkerStore
  disk : FileTree

namespace Compiler

/-- The marker for the date of the bundle that the store was filled from. -/
def bundleDateKey : String := "blocker-file-date"

/-- The source of a list: its bundled text with the rules that are added to it. -/
def source (c : Compiler) (rules : AllowRules) (l : Blocklist) : Except BrokenList String :=
  match c.bundle.read c.disk l.filename with
  | .error e => .error (.unavailable l e)
  | .ok text =>
    match RuleList.synthesize text (rules l.kind) l.isCosmetic with
    | .ok source => .ok source
    | .error e => .error (.malformed l e)

/-! ### Purging -/

/-- The date of the bundled list that was changed last. -/
def newestBundleDate? (c : Compiler) : Option Date :=
  (Blocklist.all.filterMap fun l => c.bundle.modified? c.disk l.filename).foldl
    (fun newest d => some (match newest with
      | none => d
      | some newest => newest.max d)) none

/-- The identifiers in the store; a store that cannot be listed counts as empty. -/
def installedIds (c : Compiler) : List String :=
  match c.store.identifiers c.disk with
  | .ok ids => ids
  | .error _ => []

/-- The compiler without a list in its store, and whether it was there. -/
def remove (c : Compiler) (id : String) : Bool × Compiler :=
  match c.store.remove id c.disk with
  | (.ok (), store, disk) => (true, { c with store, disk })
  | (.error _, store, disk) => (false, { c with store, disk })

/-- The compiler with some lists removed, and how many of them were there. -/
def removeEach (c : Compiler) : List String → Nat × Compiler
  | [] => (0, c)
  | id :: ids =>
    let (removed, c) := c.remove id
    let (n, c) := c.removeEach ids
    (if removed then n + 1 else n, c)

/-- The compiler with an empty store, and how many lists were removed. -/
def removeAll (c : Compiler) : Nat × Compiler := c.removeEach c.installedIds

/-- The bundle is newer than the store; a store without a marker is older than any bundle. -/
def isStale (c : Compiler) (newest : Date) : Bool :=
  match c.markers.date? bundleDateKey with
  | none => true
  | some marker => Date.laterMillis newest.millis? marker.millis?

/-- The compiler with a date for its bundle; a date that cannot be kept is let go. -/
def mark (c : Compiler) (date : Date) : Compiler :=
  let (_, markers, disk) := c.markers.setDate bundleDateKey date c.disk
  { c with markers, disk }

/-- The compiler after a purge of a store that is older than the bundle, and whether it was. -/
def purgeByDate (c : Compiler) : Bool × Compiler :=
  match c.newestBundleDate? with
  | none => (false, c)
  | some newest => if c.isStale newest then (true, c.removeAll.2.mark newest) else (false, c)

/-- The compiler after a purge of a store with unknown lists, and whether it had some. -/
def purgeByName (c : Compiler) : Bool × Compiler :=
  if c.installedIds.all fun id => (Blocklist.ofFilename? id).isSome then (false, c)
  else (true, c.removeAll.2)

/-! ### Compiling -/

/-- The lists in the store, in the order of the lists. -/
def installedLists (c : Compiler) : List Blocklist :=
  Blocklist.all.filter fun l => c.installedIds.contains l.filename

/-- The compiler after one list was compiled, and whether it compiled. -/
def compileList (c : Compiler) (rules : AllowRules) (l : Blocklist) :
    Except BrokenList (Bool × Compiler) := do
  let source ← c.source rules l
  match c.store.compile l.filename source c.disk with
  | (.ok _, store, disk) => return (true, { c with store, disk })
  | (.error _, store, disk) => return (false, { c with store, disk })

/-- The compiler after some lists were compiled in this order, and those that compiled. -/
def compileEach (c : Compiler) (rules : AllowRules) :
    List Blocklist → Except BrokenList (List Blocklist × Compiler)
  | [] => .ok ([], c)
  | l :: ls => do
    let (done, c) ← c.compileList rules l
    let (compiled, c) ← c.compileEach rules ls
    return (if done then l :: compiled else compiled, c)

/-- The report of a pass that found and compiled some lists. -/
def report (installed compiled : List Blocklist) : CompileReport :=
  { compiled := Blocklist.all.filter fun l => compiled.contains l
    alreadyInstalled := Blocklist.all.filter fun l => installed.contains l
    failed := Blocklist.all.filter fun l => !compiled.contains l && !installed.contains l }

/-- The compiler after all lists that were not in the store were compiled. -/
def compileMissing (c : Compiler) (rules : AllowRules) :
    Except BrokenList (CompileReport × Compiler) := do
  let installed := c.installedLists
  let missing := Blocklist.all.filter fun l => !installed.contains l
  let (compiled, c) ← c.compileEach rules missing
  return (report installed compiled, c)

/-- The compiler after an outdated store was purged and all missing lists were compiled. -/
def startup (c : Compiler) (rules : AllowRules) : Except BrokenList (CompileReport × Compiler) :=
  c.purgeByDate.2.purgeByName.2.compileMissing rules

/-- The compiler after some lists were dropped and all missing lists were compiled. -/
def invalidate (c : Compiler) (lists : List Blocklist) (rules : AllowRules) :
    Except BrokenList (CompileReport × Compiler) :=
  (c.removeEach (lists.map Blocklist.filename)).2.compileMissing rules

/-! ### Installing -/

/-- The lists among some that can be looked up. -/
def installable (c : Compiler) (lists : List Blocklist) : List String :=
  (lists.filter fun l => (c.store.lookup l.filename c.disk).isOk).map Blocklist.filename

/-- The host with its lists replaced, and how many it has; a disabled one has none. -/
def reinstall (c : Compiler) (h : Host) (enabled : Bool) (lists : List Blocklist) : Nat × Host :=
  let installed := if enabled then c.installable lists else []
  (installed.length, ⟨installed, h.uninstalls + 1⟩)

end Compiler

end ContentBlocking
