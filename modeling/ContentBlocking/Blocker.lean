import ContentBlocking.AllowList.Store
import ContentBlocking.Compiler
import ContentBlocking.Config
import ContentBlocking.Event
import ContentBlocking.Tracker.Database

/-!
# The content blocker

A `Blocker` joins the three allow-lists, the tracker database and the compiler and tells the tabs
what happens.  An edit of an allow-list is three steps that other edits may come between:
`Blocker.edit` changes the list, `Blocker.recompile` brings the compiled lists up to date with all
allow-lists as they are by then, and `Blocker.announce` asks the tabs to reinstall.
-/

namespace ContentBlocking

/-- The allow-lists of all kinds. -/
structure AllowLists where
  ads : AllowList.Store
  tracking : AllowList.Store
  popups : AllowList.Store

namespace AllowLists

/-- The allow-lists in a directory of documents. -/
def openAt (documents : String) (t : FileTree) : AllowLists :=
  { ads := .openAt .ads documents t
    tracking := .openAt .tracking documents t
    popups := .openAt .popups documents t }

/-- The allow-list of a kind. -/
def get (a : AllowLists) : AllowList.Kind → AllowList.Store
  | .ads => a.ads
  | .tracking => a.tracking
  | .popups => a.popups

/-- The allow-lists with the one of a kind replaced. -/
def set (a : AllowLists) (k : AllowList.Kind) (s : AllowList.Store) : AllowLists :=
  match k with
  | .ads => { a with ads := s }
  | .tracking => { a with tracking := s }
  | .popups => { a with popups := s }

/-- The rules that the allow-lists add to the rule lists. -/
def rules (a : AllowLists) : AllowRules := fun k => (a.get k).domains.rule?

/-- The patterns of the sites on which no tracker is reported. -/
def patterns (a : AllowLists) : List String :=
  a.ads.domains.patterns ++ a.tracking.domains.patterns

@[simp] theorem get_set_self (a : AllowLists) (k : AllowList.Kind) (s : AllowList.Store) :
    (a.set k s).get k = s := by
  cases k <;> rfl

theorem get_set_of_ne (a : AllowLists) {j k : AllowList.Kind} (s : AllowList.Store) (h : j ≠ k) :
    (a.set k s).get j = a.get j := by
  cases k <;> cases j <;> first | rfl | exact absurd rfl h

end AllowLists

/-- The content blocker of a process. -/
structure Blocker where
  config : Config
  allowLists : AllowLists
  database : TrackerDatabase
  compiler : Compiler
  events : Channel
  setupCompleted : Bool
  /-- The public suffix list, which outlives the blocker. -/
  suffixes : Option SuffixList

namespace Blocker

/-- The blocker over a compiler, with the allow-lists that are on the compiler's disk. -/
def create (config : Config) (compiler : Compiler) (suffixes : Option SuffixList) : Blocker :=
  { config
    allowLists := .openAt config.documents compiler.disk
    database := .unpublished
    compiler
    events := .empty
    setupCompleted := false
    suffixes }

/-- The blocker whose bundle, store and markers are the files of its configuration. -/
def ofConfig (config : Config) (disk : FileTree) : Blocker :=
  create config
    { bundle := .directory config.resources
      store := .directory config.store
      markers := .openAt config.markers disk
      disk }
    none

/-- The disk that the blocker works on. -/
def disk (b : Blocker) : FileTree := b.compiler.disk

/-- The blocker with another state of its disk. -/
def withDisk (b : Blocker) (disk : FileTree) : Blocker :=
  { b with compiler := { b.compiler with disk } }

/-- The blocker after it told the tabs something. -/
def emit (b : Blocker) (e : Event) : Blocker := { b with events := b.events.send e }

/-! ### Start -/

/-- The blocker with the public suffix list of its configuration; one that cannot be read changes
nothing. -/
def loadSuffixes (b : Blocker) : Blocker :=
  match b.config.suffixList with
  | none => b
  | some path =>
    match b.disk.readText path with
    | .error _ => b
    | .ok text =>
      match SuffixList.ofText text with
      | .error _ => b
      | .ok list => { b with suffixes := some list }

/-- The blocker with its tracker database loaded if it can be. -/
def loadDatabase (b : Blocker) : Blocker :=
  { b with database := b.database.startup b.compiler.bundle b.disk b.config.trackerDatabase }

/-- The blocker after its compiler's startup, and the report of it. -/
def startCompiler (b : Blocker) : Except BrokenList (CompileReport × Blocker) := do
  let (report, compiler) ← b.compiler.startup b.allowLists.rules
  return (report, { b with compiler })

/-- The blocker after all of its start, which it announces, and the report of its compiler. -/
def start (b : Blocker) : Except BrokenList (CompileReport × Blocker) := do
  let (report, b) ← b.loadSuffixes.loadDatabase.startCompiler
  return (report, ({ b with setupCompleted := true }.emit .setupCompleted).emit .setupRequired)

/-! ### Classification -/

/-- The tracker behind a URL, unless its site is on the allow-list for ads or for tracking. -/
def classify (b : Blocker) (url : String) : Option Tracker :=
  b.database.classify b.suffixes url b.allowLists.patterns

/-! ### Allow-lists -/

/-- Whether the host of a URL is on the allow-list of a kind. -/
def isAllowListed (b : Blocker) (k : AllowList.Kind) (url : String) : Bool :=
  (b.allowLists.get k).isAllowListed url

/-- The blocker after the host of a URL was put on an allow-list or taken off it, and the lists to
compile again; none if the URL has no host. -/
def edit (b : Blocker) (k : AllowList.Kind) (enabled : Bool) (url : String) :
    Option (List Blocklist) × Blocker :=
  let (lists, store, disk) := (b.allowLists.get k).setAllowListed enabled url b.disk
  (lists, { b with allowLists := b.allowLists.set k store }.withDisk disk)

/-- The blocker after some lists were dropped and all missing ones compiled with the rules of all
allow-lists. -/
def recompile (b : Blocker) (lists : List Blocklist) :
    Except BrokenList (CompileReport × Blocker) := do
  let (report, compiler) ← b.compiler.invalidate lists b.allowLists.rules
  return (report, { b with compiler })

/-- The blocker after it asked the tabs to reinstall their lists. -/
def announce (b : Blocker) : Blocker := b.emit .setupRequired

/-- The blocker after an edit of an allow-list and all that follows from it, and whether the URL had
a host. -/
def setAllowListed (b : Blocker) (k : AllowList.Kind) (enabled : Bool) (url : String) :
    Except BrokenList (Bool × Blocker) :=
  match b.edit k enabled url with
  | (none, b) => .ok (false, b)
  | (some lists, b) => do
    let (_, b) ← b.recompile lists
    return (true, b.announce)

/-- The host with its lists replaced by some compiled lists, and how many it has. -/
def reinstall (b : Blocker) (h : Host) (enabled : Bool) (lists : List Blocklist) : Nat × Host :=
  b.compiler.reinstall h enabled lists

end Blocker

end ContentBlocking
