import ContentBlocking.Cli.Run
import ContentBlocking.Proofs.Blocker.Start
import ContentBlocking.Proofs.Json.Members
import ContentBlocking.Proofs.Tab.Reports

/-!
# Pages and classifications

The commands `page` and `classify` both look up the trackers of resources.  A page starts the
blocker first, which loads the public suffix list of the configuration; `classify` loads the tracker
database only.  So they print the same trackers exactly if the list makes no difference to the hits
(`Cli.agree_iff`).

The proof: a page that ends well had a start that was not stopped, its tab counted the hits of the
resources by the list (`Cli.exists_prints_page`), and the members of its summary are the numbers and
the trackers of these hits.  What is printed of a classification are the hits without the list
(`Cli.trackersOf_entries`).  JSON forms of different trackers differ, so nothing is lost in print
(`Cli.agree_pageSummary_iff`).
-/

namespace ContentBlocking.Cli

open Json (Value Distinct)

/-! ### What is printed -/

/-- The program ended well and printed a value. -/
def Prints (o : Outcome) (v : Value) : Prop := o = done (linesOf v.pretty)

/-- The trackers that are printed with some URLs. -/
def trackersOf : Value → List Value
  | .array entries => entries.filterMap fun entry =>
    match entry.get? "tracker" with
    | some .null => none
    | tracker => tracker
  | _ => []

/-- How many of some printed trackers have a category. -/
def countOf (name : String) (trackers : List Value) : Nat :=
  trackers.countP fun tracker => (tracker.get? "category").bind Value.string? == some name

/-- The summary of a page is about the trackers that are printed with its resources. -/
structure Agree (summary entries : Value) : Prop where
  total : summary.get? "total" = some (.nat (trackersOf entries).length)
  byCategory : ∀ name, (summary.get? "by_category").bind (·.get? name) =
    if countOf name (trackersOf entries) = 0 then none
    else some (.nat (countOf name (trackersOf entries)))
  trackers : ∃ listed, summary.get? "trackers" = some (.array listed) ∧ listed.Nodup ∧
    ∀ tracker, tracker ∈ listed ↔ tracker ∈ trackersOf entries

/-- Hits of equal numbers in each category and of the same trackers. -/
structure SameHits (hits hits' : List Tracker) : Prop where
  counts : ∀ c : Category, hits.countP (·.category = c) = hits'.countP (·.category = c)
  trackers : ∀ t, t ∈ hits ↔ t ∈ hits'

/-! ### Trackers in JSON -/

theorem toJson_injective {t t' : Tracker} (h : t.toJson = t'.toJson) : t = t' := by
  obtain ⟨c, id⟩ := t
  obtain ⟨c', id'⟩ := t'
  simp only [Tracker.toJson, Value.object.injEq, List.cons.injEq, Prod.mk.injEq, Value.string.injEq,
    true_and, and_true] at h
  obtain ⟨hraw, rfl⟩ := h
  rw [Category.raw_injective hraw]

theorem nat_injective {m n : Nat} (h : Value.nat m = Value.nat n) : m = n := by
  simp only [Value.nat, Value.number.injEq] at h
  injection h with h
  exact Int.ofNat.inj h

theorem category_toJson (t : Tracker) :
    (t.toJson.get? "category").bind Value.string? = some t.category.raw := by
  simp [Tracker.toJson, Value.get?, Value.string?]

theorem countOf_map (c : Category) (hits : List Tracker) :
    countOf c.raw (hits.map Tracker.toJson) = hits.countP (·.category = c) := by
  rw [countOf, List.countP_map]
  refine List.countP_congr fun t _ => ?_
  simp only [Function.comp_apply, category_toJson, beq_iff_eq, Option.some.injEq, decide_eq_true_eq]
  exact ⟨Category.raw_injective, fun h => h ▸ rfl⟩

/-- Only the names of categories have trackers. -/
theorem countOf_of_ne {name : String} (h : ∀ c : Category, c.raw ≠ name) (hits : List Tracker) :
    countOf name (hits.map Tracker.toJson) = 0 := by
  rw [countOf, List.countP_map, List.countP_eq_zero]
  intro t _
  simp only [Function.comp_apply, category_toJson, beq_iff_eq, Option.some.injEq]
  exact h t.category

/-! ### Classification -/

/-- What is printed of a URL and of its tracker. -/
def entry (b : Blocker) (url : String) : Value :=
  .object [
    ("tracker", match b.classify url with
      | some t => t.toJson
      | none => .null),
    ("url", .string url)]

theorem trackersOf_entries (b : Blocker) (urls : List String) :
    trackersOf (.array (urls.map (entry b))) = (b.hits urls).map Tracker.toJson := by
  rw [trackersOf, List.filterMap_map, Blocker.hits, List.map_filterMap]
  refine List.filterMap_congr fun url _ => ?_
  simp only [Function.comp_apply, entry, Value.get?, List.find?_cons_of_pos, beq_self_eq_true,
    Option.map_some]
  cases b.classify url <;> rfl

/-- A classification that ends well prints the trackers of the loaded database. -/
theorem prints_classify {b : Blocker} {urls : List String}
    (h : (classify b urls).ending = .success) :
    Prints (classify b urls) (.array (urls.map (entry b.loadDatabase))) := by
  rw [classify] at h ⊢
  by_cases hready : b.loadDatabase.database.isReady = true
  · simp only [if_pos hready]
    rfl
  · simp only [if_neg hready] at h
    cases h

/-! ### Pages -/

section Summary

variable {t : Tab} {b : Blocker} {url : String}

/-- The members of a summary in the order in which they are made. -/
def summaryMembers (t : Tab) (b : Blocker) (url : String) : List (String × Value) :=
  [("url", .string url),
    ("status", .string (t.status b).name),
    ("installed", .strings t.host.installed),
    ("total", .nat t.stats.total),
    ("by_category", .object (Json.sortMembers
      (t.stats.byCategory.map fun (c, n) => (c.raw, .nat n)))),
    ("trackers", .array (t.stats.trackers.map Tracker.toJson))]

theorem get?_pageSummary {name : String} {v : Value} (h : (name, v) ∈ summaryMembers t b url) :
    (pageSummary t b url).get? name = some v := by
  refine (Value.get?_sortMembers_iff ?_).2 h
  simp [Distinct]

/-- The members of the numbers of some statistics. -/
def categoryMembers (s : PageStats) : List (String × Value) :=
  s.byCategory.map fun (c, n) => (c.raw, .nat n)

theorem distinct_categoryMembers (s : PageStats) : Distinct (categoryMembers s) := by
  have hall : Category.all.Pairwise fun c d => c.raw ≠ d.raw := by decide
  refine List.pairwise_map.2 (List.Pairwise.filter _ (List.pairwise_map.2 (hall.imp ?_)))
  intro c d hne
  exact hne

theorem mem_categoryMembers {s : PageStats} {name : String} {v : Value} :
    (name, v) ∈ categoryMembers s ↔
      ∃ c : Category, c.raw = name ∧ 0 < s.count c ∧ v = .nat (s.count c) := by
  simp only [categoryMembers, PageStats.byCategory, List.mem_map, List.mem_filter,
    decide_eq_true_eq, Prod.mk.injEq]
  constructor
  · rintro ⟨_, ⟨⟨c, -, rfl⟩, hpos⟩, rfl, rfl⟩
    exact ⟨c, rfl, hpos, rfl⟩
  · rintro ⟨c, rfl, hpos, rfl⟩
    exact ⟨(c, s.count c), ⟨⟨c, c.mem_all, rfl⟩, hpos⟩, rfl, rfl⟩

/-- The number of a category is printed if it is not zero. -/
theorem get?_categoryMembers_raw (s : PageStats) (c : Category) :
    (Value.object (Json.sortMembers (categoryMembers s))).get? c.raw =
      if s.count c = 0 then none else some (.nat (s.count c)) := by
  split_ifs with hzero
  · refine Option.eq_none_iff_forall_ne_some.2 fun v hv => ?_
    rw [Value.get?_sortMembers_iff (distinct_categoryMembers s), mem_categoryMembers] at hv
    obtain ⟨d, hraw, hpos, -⟩ := hv
    obtain rfl := Category.raw_injective hraw
    exact absurd hzero (Nat.ne_of_gt hpos)
  · rw [Value.get?_sortMembers_iff (distinct_categoryMembers s), mem_categoryMembers]
    exact ⟨c, rfl, Nat.pos_of_ne_zero hzero, rfl⟩

theorem get?_categoryMembers_of_ne (s : PageStats) {name : String}
    (h : ∀ c : Category, c.raw ≠ name) :
    (Value.object (Json.sortMembers (categoryMembers s))).get? name = none := by
  refine Option.eq_none_iff_forall_ne_some.2 fun v hv => ?_
  rw [Value.get?_sortMembers_iff (distinct_categoryMembers s), mem_categoryMembers] at hv
  obtain ⟨c, hraw, -⟩ := hv
  exact h c hraw

theorem get?_total (t : Tab) (b : Blocker) (url : String) :
    (pageSummary t b url).get? "total" = some (.nat t.stats.total) :=
  get?_pageSummary (by simp [summaryMembers])

theorem get?_byCategory (t : Tab) (b : Blocker) (url : String) :
    (pageSummary t b url).get? "by_category" =
      some (.object (Json.sortMembers (categoryMembers t.stats))) :=
  get?_pageSummary (by simp [summaryMembers, categoryMembers])

theorem get?_trackers (t : Tab) (b : Blocker) (url : String) :
    (pageSummary t b url).get? "trackers" =
      some (.array (t.stats.trackers.map Tracker.toJson)) :=
  get?_pageSummary (by simp [summaryMembers])

variable {entries : Value} {hits hits' : List Tracker}

theorem sameHits_of_agree (hstats : t.stats = .ofHits hits)
    (hentries : trackersOf entries = hits'.map Tracker.toJson)
    (h : Agree (pageSummary t b url) entries) : SameHits hits hits' := by
  constructor
  · intro c
    have hc := h.byCategory c.raw
    rw [get?_byCategory, Option.bind_some, get?_categoryMembers_raw, hentries, countOf_map,
      hstats, PageStats.count_ofHits] at hc
    split_ifs at hc with h₁ h₂ h₂
    · rw [h₁, h₂]
    · exact nat_injective (Option.some.inj hc)
  · intro tracker
    obtain ⟨listed, heq, -, hmem⟩ := h.trackers
    rw [get?_trackers, Option.some.injEq, Value.array.injEq] at heq
    subst heq
    have htracker := hmem tracker.toJson
    rw [List.mem_map_of_injective fun _ _ => toJson_injective, hentries,
      List.mem_map_of_injective fun _ _ => toJson_injective, hstats,
      PageStats.mem_trackers_ofHits] at htracker
    exact htracker

theorem agree_of_sameHits (hstats : t.stats = .ofHits hits)
    (hentries : trackersOf entries = hits'.map Tracker.toJson) (h : SameHits hits hits') :
    Agree (pageSummary t b url) entries := by
  constructor
  · rw [get?_total, hstats, PageStats.total_ofHits, hentries, List.length_map,
      PageStats.length_eq_of_countP h.counts]
  · intro name
    rw [get?_byCategory, Option.bind_some, hentries]
    -- a name that is none of a category has no number and no hits
    by_cases hname : ∃ c : Category, c.raw = name
    · obtain ⟨c, rfl⟩ := hname
      rw [get?_categoryMembers_raw, countOf_map, hstats, PageStats.count_ofHits, h.counts]
    · have hne : ∀ c : Category, c.raw ≠ name := fun c hc => hname ⟨c, hc⟩
      rw [get?_categoryMembers_of_ne _ hne, countOf_of_ne hne, if_pos rfl]
  · refine ⟨_, get?_trackers t b url, ?_, fun tracker => ?_⟩
    · rw [hstats]
      exact (PageStats.nodup_trackers_ofHits hits).map fun _ _ => toJson_injective
    · rw [hstats, hentries, List.mem_map, List.mem_map]
      simp only [PageStats.mem_trackers_ofHits, h.trackers]

/-- A page whose tab counted some hits agrees with a classification exactly if that has the same
hits. -/
theorem agree_pageSummary_iff (hstats : t.stats = .ofHits hits)
    (hentries : trackersOf entries = hits'.map Tracker.toJson) :
    Agree (pageSummary t b url) entries ↔ SameHits hits hits' :=
  ⟨sameHits_of_agree hstats hentries, agree_of_sameHits hstats hentries⟩

end Summary

/-- The tab of a visited page has counted the hits of its resources. -/
theorem stats_visit {b : Blocker} {url : String} (hexempt : Tab.isExempt b url = false)
    (resources : List String) (popups : Bool) :
    (visit b url resources popups).1.stats = .ofHits (b.hits resources) := by
  let settings := { Settings.standard with popupBlocking := popups }
  let t := ((Tab.create 1 (some url) settings).setup b).2
  have hsettings : t.settings.privacyDashboard = true := rfl
  have hurl : t.url = some url := rfl
  exact Tab.stats_reports hsettings hurl hexempt resources

/-- A page that ends well prints the hits of its resources, by the public suffix list that its start
loaded. -/
theorem exists_prints_page {b : Blocker} {url : String} {resources : List String} {popups : Bool}
    (hexempt : Tab.isExempt b url = false)
    (h : (page b url resources popups).1.ending = .success) :
    ∃ t b', Prints (page b url resources popups).1 (pageSummary t b' url) ∧
      t.stats = .ofHits (b.loadSuffixes.loadDatabase.hits resources) := by
  delta page at h ⊢
  cases hstart : b.start with
  | error e =>
    rw [hstart] at h
    cases h
  | ok started =>
    obtain ⟨report, b₁⟩ := started
    have hexempt₁ : Tab.isExempt b₁ url = false := by
      rw [Tab.isExempt, Blocker.isAllowListed, Blocker.isAllowListed,
        Blocker.allowLists_of_start hstart]
      exact hexempt
    have hhits : b₁.hits resources = b.loadSuffixes.loadDatabase.hits resources :=
      List.filterMap_congr fun resource _ => Blocker.classify_of_start hstart resource
    have hstats := stats_visit hexempt₁ resources popups
    rw [hhits] at hstats
    exact ⟨(visit b₁ url resources popups).1, (visit b₁ url resources popups).2, rfl, hstats⟩

/-! ### Both commands -/

/-- The public suffix list makes no difference if it gives the hosts the sites that they have
without it. -/
theorem hits_loadSuffixes {b : Blocker} {urls : List String}
    (h : ∀ url ∈ urls, ∀ host, Url.normalizedHost? url = some host →
      Site.ofHost b.loadSuffixes.suffixes host = Site.ofHost b.suffixes host) :
    b.loadSuffixes.loadDatabase.hits urls = b.loadDatabase.hits urls := by
  refine List.filterMap_congr fun url hurl => ?_
  rw [Blocker.classify, Blocker.classify, Blocker.database_loadSuffixes_loadDatabase]
  have hlists : b.loadSuffixes.loadDatabase.allowLists = b.loadDatabase.allowLists :=
    b.allowLists_loadSuffixes
  rw [hlists]
  exact TrackerDatabase.classify_of_site (h url hurl) _ _

/-- **The summary of a page agrees with a classification of its resources exactly if the public
suffix list makes no difference to their hits**, because `classify` does not load it.  They do agree
if the list leaves the sites of the resources as they are without one, as it does when none is
loaded. -/
theorem agree_iff (config : Config) (disk : FileTree) {url : String} {resources : List String}
    {popups : Bool} (hexempt : Tab.isExempt (.ofConfig config disk) url = false)
    (hpage : (runCommand (.ofConfig config disk) (.page url resources popups)).1.ending = .success)
    (hclassify :
      (runCommand (.ofConfig config disk) (.classify resources)).1.ending = .success) :
    ∃ summary entries,
      Prints (runCommand (.ofConfig config disk) (.page url resources popups)).1 summary ∧
      Prints (runCommand (.ofConfig config disk) (.classify resources)).1 entries ∧
      (Agree summary entries ↔
        SameHits ((Blocker.ofConfig config disk).loadSuffixes.loadDatabase.hits resources)
          ((Blocker.ofConfig config disk).loadDatabase.hits resources)) ∧
      ((∀ resource ∈ resources, ∀ host, Url.normalizedHost? resource = some host →
          Site.ofHost (Blocker.ofConfig config disk).loadSuffixes.suffixes host =
            Site.ofHost none host) →
        Agree summary entries) := by
  let b : Blocker := .ofConfig config disk
  obtain ⟨t, b', hsummary, hstats⟩ := exists_prints_page hexempt hpage
  have hentries := prints_classify hclassify
  have hiff : Agree (pageSummary t b' url) (.array (resources.map (entry b.loadDatabase))) ↔
      SameHits (b.loadSuffixes.loadDatabase.hits resources) (b.loadDatabase.hits resources) :=
    agree_pageSummary_iff hstats (trackersOf_entries b.loadDatabase resources)
  refine ⟨_, _, hsummary, hentries, hiff, fun hsites => hiff.2 ?_⟩
  have hsame : b.loadSuffixes.loadDatabase.hits resources = b.loadDatabase.hits resources :=
    hits_loadSuffixes hsites
  rw [hsame]
  exact ⟨fun _ => rfl, fun _ => .rfl⟩

/-- A page with one tracker, on a disk without a public suffix list whose rule lists do not
compile. -/
theorem agree_without_list : ∃ disk summary entries,
    Prints (runCommand (.ofConfig (.withRoot "." "state") disk)
      (.page "http://news.com/" ["http://cdn.ads.com/a.js"] false)).1 summary ∧
    Prints (runCommand (.ofConfig (.withRoot "." "state") disk)
      (.classify ["http://cdn.ads.com/a.js"])).1 entries ∧
    Agree summary entries := by
  let database : Value := .object [("apps", .object [("a", .object [("cat", .string "cdn")])]),
    ("domains", .object [("ads.com", .string "a")])]
  let files : List (String × String) :=
    ("tracker_db_v2", database.compact) :: Blocklist.all.map fun l => (l.filename, "[1]")
  let disk : FileTree := files.foldl
    (fun t f => t.put [Bundle.filename f.1] (.file (.text f.2) ⟨0⟩)) (.empty [] ⟨0⟩)
  let b : Blocker := .ofConfig (.withRoot "." "state") disk
  have hexempt : Tab.isExempt b "http://news.com/" = false := by decide +kernel
  have hpage : (runCommand b
      (.page "http://news.com/" ["http://cdn.ads.com/a.js"] false)).1.ending = .success := by
    decide +kernel
  have hclassify : (runCommand b (.classify ["http://cdn.ads.com/a.js"])).1.ending = .success := by
    decide +kernel
  obtain ⟨summary, entries, hsummary, hentries, -, hagree⟩ :=
    agree_iff (.withRoot "." "state") disk hexempt hpage hclassify
  exact ⟨disk, summary, entries, hsummary, hentries, hagree fun _ _ _ _ => rfl⟩

end ContentBlocking.Cli
