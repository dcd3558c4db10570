import ContentBlocking.Proofs.Tab.Reports
import Mathlib

/-!
# Reports with a rewritten scheme

A tab asks for the tracker of a reported resource after it replaced the scheme of its URL.
`Tab.classify_rewritten` says that this is of no account: the rewritten URL has its host at the
shifted place, so all look-ups find the same for it, and a resource whose scheme cannot be replaced
has no host and so no tracker.  What a tab finds for a report is what is known about the URL that
was reported (`Tab.beginReport_classifies`).
-/

namespace ContentBlocking

variable {url : String}

theorem TrackerTable.lookup_of_normalizedHost_none (h : Url.normalizedHost? url = none)
    (table : TrackerTable) (suffixes : Option SuffixList) (patterns : List String) :
    table.lookup suffixes url patterns = none := by
  rw [lookup, h]
  rfl

theorem TrackerTable.lookup_congr {url' : String}
    (h : Url.normalizedHost? url = Url.normalizedHost? url') (table : TrackerTable)
    (suffixes : Option SuffixList) (patterns : List String) :
    table.lookup suffixes url patterns = table.lookup suffixes url' patterns := by
  rw [lookup, lookup, h]

namespace Tab

variable {t : Tab} {b : Blocker} {page : String} {payload : Json.Value}

/-- **What a tab finds for a report is what is known about the reported URL.**  A report that passes
the checks waits for the tracker of its URL, or is answered at once because there is none. -/
theorem beginReport_classifies (hsettings : t.settings.privacyDashboard = true)
    (hurl : t.url = some page) (hexempt : isExempt b page = false)
    (hresource : resource? payload = some url) :
    t.beginReport b payload = (.pending t.pageLoad (b.classify url), t, b) ∨
      t.beginReport b payload = (.answered, t, b) ∧ b.classify url = none := by
  rw [beginReport_of_resource hsettings hurl hexempt hresource]
  cases hhttp : Url.withHttpScheme? url with
  | none => exact .inr ⟨rfl, b.classify_of_withHttpScheme_none hhttp⟩
  | some http =>
    rw [← b.classify_withHttpScheme hhttp]
    cases hask : b.database.askFor? http with
    | none =>
      -- what is not asked about has no tracker
      have hnone : b.classify http = none :=
        TrackerDatabase.classify_of_askFor_none hask b.suffixes _
      exact .inr ⟨by simp [hask], hnone⟩
    | some table => exact .inl (by simp [hask])

/-- A report that is handled without interruption is answered with the tracker of its URL. -/
theorem fst_handleReport (hsettings : t.settings.privacyDashboard = true)
    (hurl : t.url = some page) (hexempt : isExempt b page = false)
    (hresource : resource? payload = some url) :
    (t.handleReport b payload).1 = b.classify url := by
  rw [handleReport]
  rcases beginReport_classifies hsettings hurl hexempt hresource with hbegin | ⟨hbegin, hnone⟩
  · cases hclassify : b.classify url with
    | none => simp only [hbegin, hclassify, finishReport]
    | some tracker => simp only [hbegin, hclassify, finishReport, if_true]
  · simp only [hbegin, hnone, finishReport]

/-- **Rewriting a scheme does not change what a URL is classified as.**  The rewritten URL has its
host where the URL has it, shifted by the difference of the schemes; its host, its host in normal
form and what any table knows about it are the same, and rewriting it again changes nothing.  A URL
that cannot be rewritten has no host and no tracker.  So a report that passes the checks of a tab is
classified as the URL that it names. -/
theorem classify_rewritten (url : String) :
    (∀ http, Url.withHttpScheme? url = some http →
      (∃ n, Url.schemeEnd? url = some n ∧
        (∀ span ∈ Url.hostSpan? url, n ≤ span.1 ∧ span.1 ≤ span.2) ∧
        Url.hostSpan? http =
          (Url.hostSpan? url).map fun span => (span.1 - n + 7, span.2 - n + 7)) ∧
      Url.host? http = Url.host? url ∧ Url.normalizedHost? http = Url.normalizedHost? url ∧
      Url.withHttpScheme? http = some http ∧
      ∀ (table : TrackerTable) (suffixes : Option SuffixList) (patterns : List String),
        table.lookup suffixes http patterns = table.lookup suffixes url patterns) ∧
    (Url.withHttpScheme? url = none → Url.host? url = none ∧
      ∀ (table : TrackerTable) (suffixes : Option SuffixList) (patterns : List String),
        table.lookup suffixes url patterns = none) ∧
    ∀ (t : Tab) (b : Blocker) (page : String) (payload : Json.Value),
      t.settings.privacyDashboard = true → t.url = some page → isExempt b page = false →
      resource? payload = some url →
      (t.beginReport b payload = (.pending t.pageLoad (b.classify url), t, b) ∨
        t.beginReport b payload = (.answered, t, b) ∧ b.classify url = none) ∧
      (t.handleReport b payload).1 = b.classify url := by
  refine ⟨fun http hhttp => ?_, fun hnone => ?_, fun t b page payload hsettings hurl hexempt hres =>
    ⟨beginReport_classifies hsettings hurl hexempt hres,
      fst_handleReport hsettings hurl hexempt hres⟩⟩
  · have hhost := Url.normalizedHost?_withHttpScheme hhttp
    obtain ⟨scheme, rest, hsplit, -⟩ := Url.splitScheme?_withHttpScheme hhttp
    have hscheme : Url.schemeEnd? url = some (Text.byteLength scheme) := by
      rw [Url.schemeEnd?, hsplit]
      rfl
    refine ⟨⟨_, hscheme, fun span hspan => Url.le_of_hostSpan? hscheme hspan,
      Url.hostSpan?_withHttpScheme hhttp hscheme⟩, Url.host?_withHttpScheme hhttp, hhost,
      Url.withHttpScheme?_withHttpScheme hhttp, fun table suffixes patterns => ?_⟩
    exact table.lookup_congr hhost suffixes patterns
  · have hhost := Url.normalizedHost?_of_withHttpScheme_none hnone
    exact ⟨Url.host?_of_withHttpScheme_none hnone,
      fun table suffixes patterns => table.lookup_of_normalizedHost_none hhost suffixes patterns⟩

/-- The host of a socket stands one byte further on behind the new scheme, and its tracker is that
of the site in small letters. -/
theorem classify_rewritten_of_socket : ∃ b : Blocker,
    Url.withHttpScheme? "wss://\u00fc@cdn.Ads.com:8080/?a@b" =
        some "http://\u00fc@cdn.Ads.com:8080/?a@b" ∧
      Url.hostSpan? "http://\u00fc@cdn.Ads.com:8080/?a@b" = some (10, 21) ∧
      ((create 9 (some "http://news.com/") .standard).handleReport b
        (report "wss://\u00fc@cdn.Ads.com:8080/?a@b")).1 = some ⟨.cdn, "a"⟩ := by
  let url := "wss://\u00fc@cdn.Ads.com:8080/?a@b"
  let b : Blocker :=
    { Blocker.ofConfig (.withRoot "." "state") (.empty [] ⟨0⟩) with
      database := ⟨some ⟨(∅ : Dict Tracker).insert "ads.com" ⟨.cdn, "a"⟩⟩⟩ }
  have hhttp : Url.withHttpScheme? url = some "http://\u00fc@cdn.Ads.com:8080/?a@b" := by
    decide
  have hscheme : Url.schemeEnd? url = some 6 := by decide
  have hspan : Url.hostSpan? url = some (9, 20) := by decide
  have hexempt : isExempt b "http://news.com/" = false := by with_unfolding_all decide
  have htracker : b.classify url = some ⟨.cdn, "a"⟩ := by with_unfolding_all decide
  obtain ⟨hrewritten, -, hreport⟩ := classify_rewritten url
  obtain ⟨⟨n, hn, -, hshifted⟩, -⟩ := hrewritten _ hhttp
  obtain rfl := Option.some.inj (hscheme.symm.trans hn)
  obtain ⟨-, hanswer⟩ := hreport (create 9 (some "http://news.com/") .standard) b
    "http://news.com/" (report url) rfl rfl hexempt (resource?_report url)
  exact ⟨b, hhttp, by rw [hshifted, hspan]; rfl, hanswer.trans htracker⟩

end Tab

end ContentBlocking
