import ContentBlocking.Blocker
import ContentBlocking.Page.Stats
import ContentBlocking.Page.Status
import ContentBlocking.Tab.Settings

/-!
# Tabs

A `Tab` has the rule lists of its settings installed and counts the trackers that its page reports.
A report takes two steps, `Tab.beginReport` and `Tab.finishReport`, between which the page can
change; a report of an earlier page load is not counted.
-/

namespace ContentBlocking

/-- A browser tab. -/
structure Tab where
  id : Nat
  /-- The page that is shown. -/
  url : Option String
  settings : Settings
  stats : PageStats
  /-- How often the statistics were cleared, in 64 bits. -/
  pageLoad : UInt64
  host : Host

/-- What the first step of a report leads to. -/
inductive Tab.Begun
  /-- The report is answered: it is about no tracker. -/
  | answered
  /-- The tracker is being looked up for a page load. -/
  | pending (pageLoad : UInt64) (tracker : Option Tracker)
  deriving DecidableEq, Repr

namespace Tab

/-- A new tab. -/
def create (id : Nat) (url : Option String) (settings : Settings) : Tab :=
  { id, url, settings, stats := .empty, pageLoad := 0, host := .empty }

/-! ### Rule lists -/

/-- The tab with its rule lists installed afresh, and how many there are. -/
def setup (t : Tab) (b : Blocker) : Nat × Tab :=
  let (n, host) := b.reinstall t.host t.settings.isEnabled t.settings.enabledLists
  (n, { t with host })

/-- The tab after it heard of an event. -/
def handle (t : Tab) (b : Blocker) (e : Event) : Tab :=
  if e = .setupRequired then (t.setup b).2 else t

/-! ### Statistics -/

/-- The tab with its statistics cleared for a new page load, and the blocker that told so. -/
def clearStats (t : Tab) (b : Blocker) : Tab × Blocker :=
  ({ t with pageLoad := t.pageLoad + 1, stats := .empty }, b.emit (.statsChanged t.id))

/-- The page of the tab is on the allow-lists for ads and for tracking. -/
def isExempt (b : Blocker) (page : String) : Bool :=
  b.isAllowListed .ads page && b.isAllowListed .tracking page

/-- The first step of a report of a resource: the checks, and the look-up if they are passed. -/
def beginReport (t : Tab) (b : Blocker) (payload : Json.Value) : Begun × Tab × Blocker :=
  if !t.settings.privacyDashboard then (.answered, t, b) else
  match (payload.get? "url").bind Json.Value.string?, t.url with
  | some resource, some page =>
    if isExempt b page then
      let (t, b) := t.clearStats b
      (.answered, t, b)
    else
      match Url.withHttpScheme? resource with
      | none => (.answered, t, b)
      | some resource =>
        if (b.database.askFor? resource).isSome then
          (.pending t.pageLoad (b.classify resource), t, b)
        else (.answered, t, b)
  | _, _ => (.answered, t, b)

/-- The last step of a report: a tracker is counted if the page is still the same. -/
def finishReport (t : Tab) (b : Blocker) : Begun → Option Tracker × Tab × Blocker
  | .pending pageLoad (some tracker) =>
    if t.pageLoad = pageLoad then
      (some tracker, { t with stats := t.stats.update tracker }, b.emit (.statsChanged t.id))
    else (none, t, b)
  | .pending _ none | .answered => (none, t, b)

/-- Both steps of a report at once, and the tracker that was counted. -/
def handleReport (t : Tab) (b : Blocker) (payload : Json.Value) : Option Tracker × Tab × Blocker :=
  let (begun, t, b) := t.beginReport b payload
  t.finishReport b begun

/-- The status of the tab. -/
def status (t : Tab) (b : Blocker) : Status :=
  let listed (enabled : Bool) (k : AllowList.Kind) : Bool :=
    t.url.any fun url => enabled && b.isAllowListed k url
  Status.ofInputs
    { enabled := t.settings.isEnabled
      hasUrl := t.url.isSome
      adAllowListed := listed t.settings.adBlocking .ads
      trackingAllowListed := listed t.settings.antiTracking .tracking
      total := t.stats.total }

end Tab

end ContentBlocking
