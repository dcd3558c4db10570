import ContentBlocking.Proofs.Page.Stats
import ContentBlocking.Proofs.Url.Scheme
import ContentBlocking.Tab

/-!
# Reports without interruption

A tab rewrites the scheme of a resource before it asks for its tracker, which changes nothing about
the answer (`Blocker.classify_withHttpScheme`).  If the page is not exempt, then a tab whose reports
are handled one after the other has counted the trackers of all resources, each once
(`Tab.stats_reports`).
-/

namespace ContentBlocking

/-! ### Classification -/

section Classification

variable {url : String}

/-- Only the host of a URL is of account. -/
theorem TrackerDatabase.classify_congr {url' : String}
    (h : Url.normalizedHost? url = Url.normalizedHost? url') (d : TrackerDatabase)
    (suffixes : Option SuffixList) (patterns : List String) :
    d.classify suffixes url patterns = d.classify suffixes url' patterns := by
  simp only [classify, askFor?, TrackerTable.lookup, h]

theorem TrackerDatabase.classify_of_askFor_none {d : TrackerDatabase} (h : d.askFor? url = none)
    (suffixes : Option SuffixList) (patterns : List String) :
    d.classify suffixes url patterns = none := by
  rw [classify, h]
  rfl

/-- A suffix list is of account only by the site that it gives the host. -/
theorem TrackerDatabase.classify_of_site {suffixes suffixes' : Option SuffixList}
    (h : ∀ host, Url.normalizedHost? url = some host →
      Site.ofHost suffixes host = Site.ofHost suffixes' host)
    (d : TrackerDatabase) (patterns : List String) :
    d.classify suffixes url patterns = d.classify suffixes' url patterns := by
  cases hhost : Url.normalizedHost? url with
  | none =>
    have hask : d.askFor? url = none := by simp [askFor?, hhost]
    rw [classify_of_askFor_none hask, classify_of_askFor_none hask]
  | some host => simp [classify, TrackerTable.lookup, hhost, h host hhost]

namespace Blocker

/-- The trackers behind some URLs, one for each URL that has one. -/
def hits (b : Blocker) (urls : List String) : List Tracker := urls.filterMap b.classify

theorem classify_withHttpScheme {http : String} (h : Url.withHttpScheme? url = some http)
    (b : Blocker) : b.classify http = b.classify url :=
  TrackerDatabase.classify_congr (Url.normalizedHost?_withHttpScheme h) b.database b.suffixes _

theorem classify_of_withHttpScheme_none (h : Url.withHttpScheme? url = none) (b : Blocker) :
    b.classify url = none := by
  refine TrackerDatabase.classify_of_askFor_none ?_ b.suffixes _
  rw [TrackerDatabase.askFor?, Url.normalizedHost?_of_withHttpScheme_none h]
  rfl

theorem hits_emit (b : Blocker) (e : Event) (urls : List String) :
    (b.emit e).hits urls = b.hits urls := rfl

end Blocker

end Classification

namespace Tab

variable {t : Tab} {b : Blocker} {page : String}

/-- A report names its resource. -/
def report (resource : String) : Json.Value := .object [("url", .string resource)]

/-- The resource that a report is about. -/
def resource? (payload : Json.Value) : Option String :=
  (payload.get? "url").bind Json.Value.string?

theorem resource?_report (resource : String) : resource? (report resource) = some resource := by
  simp [resource?, report, Json.Value.get?, Json.Value.string?]

/-- The first step passes all checks. -/
theorem beginReport_of_resource {payload : Json.Value} {resource : String}
    (hsettings : t.settings.privacyDashboard = true) (hurl : t.url = some page)
    (hexempt : isExempt b page = false) (hresource : resource? payload = some resource) :
    t.beginReport b payload =
      match Url.withHttpScheme? resource with
      | none => (.answered, t, b)
      | some http =>
        if (b.database.askFor? http).isSome then (.pending t.pageLoad (b.classify http), t, b)
        else (.answered, t, b) := by
  rw [resource?] at hresource
  cases hhttp : Url.withHttpScheme? resource with
  | none => simp [beginReport, hresource, hurl, hsettings, hexempt, hhttp]
  | some http => simp [beginReport, hresource, hurl, hsettings, hexempt, hhttp]

theorem beginReport_eq (hsettings : t.settings.privacyDashboard = true) (hurl : t.url = some page)
    (hexempt : isExempt b page = false) (resource : String) :
    t.beginReport b (report resource) =
      match Url.withHttpScheme? resource with
      | none => (.answered, t, b)
      | some http =>
        if (b.database.askFor? http).isSome then (.pending t.pageLoad (b.classify http), t, b)
        else (.answered, t, b) :=
  beginReport_of_resource hsettings hurl hexempt (resource?_report resource)

/-- **A report counts the tracker of its resource**, if the page is not exempt. -/
theorem handleReport_eq (hsettings : t.settings.privacyDashboard = true) (hurl : t.url = some page)
    (hexempt : isExempt b page = false) (resource : String) :
    (t.handleReport b (report resource)).2 =
      match b.classify resource with
      | some tracker =>
        ({ t with stats := t.stats.update tracker }, b.emit (.statsChanged t.id))
      | none => (t, b) := by
  rw [handleReport, beginReport_eq hsettings hurl hexempt]
  cases hhttp : Url.withHttpScheme? resource with
  | none =>
    rw [Blocker.classify_of_withHttpScheme_none hhttp]
    rfl
  | some http =>
    rw [← Blocker.classify_withHttpScheme hhttp]
    cases hask : b.database.askFor? http with
    | none =>
      -- what is not asked about has no tracker
      have hnone : b.classify http = none := TrackerDatabase.classify_of_askFor_none hask _ _
      simp only [hask, hnone, Option.isSome_none, Bool.false_eq_true, if_false, finishReport]
    | some table =>
      cases hclassify : b.classify http with
      | none => simp only [hask, hclassify, Option.isSome_some, if_true, finishReport]
      | some tracker => simp only [hask, hclassify, Option.isSome_some, if_true, finishReport]

/-- The tab and the blocker after some reports, one after the other. -/
def reports (t : Tab) (b : Blocker) (resources : List String) : Tab × Blocker :=
  resources.foldl (fun s resource => (s.1.handleReport s.2 (report resource)).2) (t, b)

/-- **Reports without interruption count all trackers of their resources.** -/
theorem stats_reports (hsettings : t.settings.privacyDashboard = true) (hurl : t.url = some page)
    (hexempt : isExempt b page = false) (resources : List String) :
    (t.reports b resources).1.stats = (b.hits resources).foldl PageStats.update t.stats := by
  induction resources generalizing t b with
  | nil => rfl
  | cons resource resources ih =>
    rw [reports, List.foldl_cons, handleReport_eq hsettings hurl hexempt, Blocker.hits]
    cases hclassify : b.classify resource with
    | none =>
      rw [List.filterMap_cons_none hclassify]
      exact ih hsettings hurl hexempt
    | some tracker =>
      rw [List.filterMap_cons_some hclassify, List.foldl_cons, ← Blocker.hits,
        ← b.hits_emit (.statsChanged t.id)]
      exact ih hsettings hurl hexempt

end Tab

end ContentBlocking
