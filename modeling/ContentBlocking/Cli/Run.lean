import ContentBlocking.Cli.Arguments
import ContentBlocking.Tab

/-!
# Commands

`Cli.run` carries out the command of one start of the program on a disk.  All that the program
prints is decided here, but for the time that it took.
-/

namespace ContentBlocking.Cli

/-- A line of output. -/
inductive Line
  | text (s : String)
  /-- The time that the command took. -/
  | elapsed
  deriving DecidableEq, Repr

/-- The text of a line, after a command that took this time. -/
def Line.render (nanos : Nat) : Line → String
  | text s => s
  | elapsed =>
    let tenths := (nanos + 50000) / 100000
    "  Time:        " ++ toString (tenths / 10) ++ "." ++ toString (tenths % 10) ++ "ms"

/-- How a start of the program ends. -/
inductive Ending
  | success
  /-- The command failed with this complaint. -/
  | failure (complaint : String)
  /-- The arguments make no sense. -/
  | misuse
  /-- A bundled list is broken. -/
  | broken (cause : BrokenList)
  deriving DecidableEq, Repr

/-- The exit code of an ending. -/
def Ending.code : Ending → Nat
  | success => 0
  | failure _ => 1
  | misuse => 2
  | broken _ => 101

/-- What an ending says on the standard error. -/
def Ending.complaint? : Ending → Option String
  | success => none
  | failure complaint => some ("Error: " ++ complaint)
  | misuse => some usage
  | broken cause => some cause.message

/-- What a start of the program prints and how it ends. -/
structure Outcome where
  output : List Line
  ending : Ending
  deriving DecidableEq, Repr

/-- The outcome of a command that succeeds. -/
def done (lines : List String) : Outcome := ⟨lines.map .text, .success⟩

/-- The outcome of a command that fails. -/
def fail (complaint : String) : Outcome := ⟨[], .failure complaint⟩

/-- The lines of a text. -/
def linesOf (text : String) : List String :=
  (Text.splitOn '\n' text.toList).map String.ofList

/-- A text filled up with blanks. -/
def pad (width : Nat) (s : String) : String :=
  s ++ String.ofList (List.replicate (width - s.length) ' ')

/-- The names of some lists, or a hyphen. -/
def names : List Blocklist → String
  | [] => "-"
  | lists => ", ".intercalate (lists.map Blocklist.filename)

/-- The configuration that the options name. -/
def Options.named (o : Options) (disk : FileTree) : Except Config.Error Config := do
  let config ← match o.config with
    | some path => Config.load path disk
    | none => .ok (Config.withRoot (o.resources.getD "resources") (o.state.getD "state"))
  return { config with suffixList := o.suffixList.or config.suffixList }

/-- The configuration that the options ask for, whose resources must exist. -/
def Options.config? (o : Options) (disk : FileTree) : Except String Config :=
  match o.named disk with
  | .error e => .error e.message
  | .ok config =>
    if disk.isDirectory config.resources then .ok config
    else .error ("Resources directory '" ++ config.resources ++ "' does not exist")

/-! ### The commands -/

/-- Compiles all missing lists, after dropping all lists if forced to. -/
def compile (b : Blocker) (force : Bool) : Outcome × FileTree :=
  let (removed, compiler) := if force then b.compiler.removeAll else (0, b.compiler)
  let front := if force then ["Removed " ++ toString removed ++ " compiled lists"] else []
  match { b with compiler }.start with
  | .error e => (⟨front.map .text, .broken e⟩, compiler.disk)
  | .ok (report, b) =>
    let lines := front ++
      ["Rule lists in '" ++ b.config.store ++ "'",
        "  Compiled:    " ++ names report.compiled,
        "  Up to date:  " ++ names report.alreadyInstalled,
        "  Failed:      " ++ names report.failed,
        "  Trackers:    " ++ toString b.database.size ++ " domains"]
    let ending := if report.failed = [] then .success else
      .failure (toString report.failed.length ++ " rule lists failed to compile")
    (⟨lines.map .text ++ [.elapsed], ending⟩, b.disk)

/-- Shows the state of the store, the dates and the allow-lists. -/
def info (b : Blocker) : Outcome :=
  let installed := b.compiler.installedLists
  let millis (d : Option Date) (none : String) : String :=
    match d with
    | some d => if 0 ≤ d.nanos then toString (d.nanos.toNat / Date.nanosPerMilli) else none
    | Option.none => none
  done (
    ["Store: " ++ b.config.store] ++
    (Blocklist.all.map fun l =>
      "  " ++ pad 26 l.filename ++ " " ++ if l ∈ installed then "compiled" else "missing") ++
    ["",
      "Dates (ms since epoch):",
      "  Marker:      " ++ millis (b.compiler.markers.date? Compiler.bundleDateKey) "unset",
      "  Bundle:      " ++ millis b.compiler.newestBundleDate? "unknown",
      "",
      "Allow-lists: " ++ b.config.documents] ++
    AllowList.Kind.all.map fun k =>
      "  " ++ pad 10 k.name ++ " " ++ toString (b.allowLists.get k).domains.size ++ " domains")

/-- Shows the trackers behind some URLs. -/
def classify (b : Blocker) (urls : List String) : Outcome :=
  let b := b.loadDatabase
  if b.database.isReady then
    let entry (url : String) : Json.Value :=
      .object [
        ("tracker", match b.classify url with
          | some t => t.toJson
          | none => .null),
        ("url", .string url)]
    done (linesOf (Json.Value.array (urls.map entry)).pretty)
  else fail ("Tracker database '" ++ b.config.trackerDatabase ++ "' could not be loaded")

/-- A tab after its page reported some resources. -/
def visit (b : Blocker) (url : String) (resources : List String) (popups : Bool) : Tab × Blocker :=
  let settings := { Settings.standard with popupBlocking := popups }
  let t := ((Tab.create 1 (some url) settings).setup b).2
  resources.foldl
    (fun (t, b) resource =>
      (t.handleReport b (.object [("url", .string resource)])).2)
    (t, b)

/-- What is shown of a visited page. -/
def pageSummary (t : Tab) (b : Blocker) (url : String) : Json.Value :=
  .object (Json.sortMembers [
    ("url", .string url),
    ("status", .string (t.status b).name),
    ("installed", .strings t.host.installed),
    ("total", .nat t.stats.total),
    ("by_category", .object (Json.sortMembers
      (t.stats.byCategory.map fun (c, n) => (c.raw, .nat n)))),
    ("trackers", .array (t.stats.trackers.map Tracker.toJson))])

/-- Simulates the load of a page and shows its statistics and status. -/
def page (b : Blocker) (url : String) (resources : List String) (popups : Bool) :
    Outcome × FileTree :=
  match b.start with
  | .error e => (⟨[], .broken e⟩, b.disk)
  | .ok (_, b) =>
    let (t, b) := visit b url resources popups
    (done (linesOf (pageSummary t b url).pretty), b.disk)

/-- Puts the host of a URL on an allow-list or takes it off. -/
def setAllowListed (b : Blocker) (enabled : Bool) (k : AllowList.Kind) (url : String) :
    Outcome × FileTree :=
  match b.setAllowListed k enabled url with
  | .error e => (⟨[], .broken e⟩, b.disk)
  | .ok (false, b) => (fail ("'" ++ url ++ "' has no host to allow-list"), b.disk)
  | .ok (true, b) =>
    (done [(if enabled then "Added " else "Removed ") ++ url ++ " on the " ++ k.name ++
      " allow-list; recompiled " ++ names k.dependents], b.disk)

/-- Lists the domains of one or of all allow-lists. -/
def listAllowListed (b : Blocker) (k : Option AllowList.Kind) : Outcome :=
  let kinds := match k with
    | some k => [k]
    | none => AllowList.Kind.all
  done (kinds.flatMap fun k =>
    (b.allowLists.get k).domains.toList.map fun domain => k.name ++ "\t" ++ domain)

/-- The outcome of a command, and the disk after it. -/
def runCommand (b : Blocker) : Command → Outcome × FileTree
  | .compile force => compile b force
  | .info => (info b, b.disk)
  | .classify urls => (classify b urls, b.disk)
  | .page url resources popups => page b url resources popups
  | .setAllowListed enabled kind url => setAllowListed b enabled kind url
  | .listAllowListed kind => (listAllowListed b kind, b.disk)

/-- The outcome of a start of the program with some arguments, and the disk after it. -/
def run (args : List String) (disk : FileTree) : Outcome × FileTree :=
  match Arguments.parse args with
  | .misuse => (⟨[], .misuse⟩, disk)
  | .help => (done (linesOf usage), disk)
  | .run options command =>
    match options.config? disk with
    | .error complaint => (fail complaint, disk)
    | .ok config => runCommand (Blocker.ofConfig config disk) command

end ContentBlocking.Cli
