import ContentBlocking.Blocker
import ContentBlocking.Proofs.AllowList.Domains
import ContentBlocking.Proofs.DomainPattern

/-!
# What a blocker knows about URLs

A blocker may try to publish tracker databases, its allow-lists are edited, and much else happens to
it.  `Blocker.classify_run_iff` says what it answers in the end: the entry of the first table that
could be loaded, for the site of the URL's host, unless the site belongs to a domain on the
allow-list for ads or for tracking.  Edits of the allow-list for popups are of no account.
-/

namespace ContentBlocking

/-! ### Exempt sites -/

namespace AllowLists

open AllowList (Domains)

variable {site domain : String}

/-- A domain without the dots in front of it. -/
def undotted (domain : String) : String := String.ofList (domain.toList.dropWhile (· == '.'))

/-- A site is a domain, dots in front of it apart, or ends in a dot and the domain, after characters
on one line. -/
def Below (site domain : String) : Prop :=
  site = undotted domain ∨ ∃ p : String, '\n' ∉ p.toList ∧ site = p ++ "." ++ undotted domain

/-- A domain is on an allow-list that suppresses trackers. -/
def Exempts (a : AllowLists) (domain : String) : Prop :=
  a.ads.domains.contains domain = true ∨ a.tracking.domains.contains domain = true

theorem covers_wildcard_iff :
    DomainPattern.Covers (Domains.wildcard domain).toList site.toList ↔ Below site domain := by
  have hlist : (Domains.wildcard domain).toList = '*' :: domain.toList := by
    rw [Domains.wildcard, String.toList_append]
    rfl
  rw [hlist, DomainPattern.covers_star_iff]
  rfl

/-- The patterns of allow-lists match the sites below exempt domains. -/
theorem matchesAny_patterns_iff (a : AllowLists) :
    DomainPattern.matchesAny a.patterns site = true ↔
      ∃ domain, a.Exempts domain ∧ DomainPattern.Fits (Domains.wildcard domain) ∧
        Below site domain := by
  have hmem : ∀ pattern, pattern ∈ a.patterns ↔ ∃ domain, a.Exempts domain ∧
      DomainPattern.ofWildcard (Domains.wildcard domain) = pattern := by
    intro pattern
    rw [patterns, Domains.patterns_eq_map, Domains.patterns_eq_map, ← List.map_append, List.mem_map]
    simp only [List.mem_append, Domains.mem_toList_iff]
    rfl
  rw [DomainPattern.matchesAny, DomainPattern.anyMatches, List.any_eq_true]
  simp only [List.mem_filterMap, hmem]
  constructor
  · rintro ⟨r, ⟨pattern, ⟨domain, hdomain, rfl⟩, hr⟩, hmatch⟩
    rw [DomainPattern.ofPattern?_ofWildcard] at hr
    split_ifs at hr with hfits
    cases hr
    rw [DomainPattern.isMatch_regexOfWildcard, covers_wildcard_iff] at hmatch
    exact ⟨domain, hdomain, hfits, hmatch⟩
  · rintro ⟨domain, hdomain, hfits, hbelow⟩
    refine ⟨DomainPattern.regexOfWildcard (Domains.wildcard domain),
      ⟨_, ⟨domain, hdomain, rfl⟩, ?_⟩, ?_⟩
    · exact (DomainPattern.ofPattern?_ofWildcard _).trans (if_pos hfits)
    · rwa [DomainPattern.isMatch_regexOfWildcard, covers_wildcard_iff]

end AllowLists

namespace Blocker

/-! ### Histories -/

/-- What may happen to a blocker. -/
inductive Act
  /-- The tracker database in a resource is to be published. -/
  | load (bundle : Bundle) (disk : FileTree) (resource : String)
  | edit (k : AllowList.Kind) (enabled : Bool) (url : String)
  /-- A public suffix list is loaded. -/
  | resolve (suffixes : SuffixList)
  /-- Lists are compiled, files are changed or the tabs are told something. -/
  | proceed (compiler : Compiler) (events : Channel)

/-- The blocker after something happened. -/
def act (b : Blocker) : Act → Blocker
  | .load bundle disk resource => { b with database := b.database.startup bundle disk resource }
  | .edit k enabled url => (b.edit k enabled url).2
  | .resolve suffixes => { b with suffixes := some suffixes }
  | .proceed compiler events => { b with compiler, events }

/-- The blocker after a history. -/
def run (b : Blocker) (history : List Act) : Blocker := history.foldl act b

namespace Act

/-- The table that can be loaded, if this is an attempt to publish one. -/
def table? : Act → Option TrackerTable
  | load bundle disk resource => TrackerDatabase.load? bundle disk resource
  | _ => none

/-- Whether this is an edit of the allow-list for popups. -/
def editsPopups : Act → Bool
  | edit k _ _ => k == .popups
  | _ => false

end Act

section Histories

variable {b b' : Blocker} {url : String} {t : Tracker}

theorem allowLists_edit (b : Blocker) (k : AllowList.Kind) (enabled : Bool) (url : String) :
    (b.edit k enabled url).2.allowLists = b.allowLists.set k
      (((b.allowLists.get k).edit enabled url).getD (b.allowLists.get k)) := by
  rw [edit, AllowList.Store.setAllowListed]
  cases (b.allowLists.get k).edit enabled url <;> rfl

/-- **The first table that can be loaded is published, and later ones are ignored.** -/
theorem table_run (b : Blocker) (history : List Act) :
    (b.run history).database.table = b.database.table.or (history.findSome? Act.table?) := by
  induction history generalizing b with
  | nil => simp [run]
  | cons a history ih =>
    have hact : (b.act a).database.table = b.database.table.or a.table? := by
      cases a with
      | load bundle disk resource =>
        rw [act, TrackerDatabase.startup, Act.table?]
        cases TrackerDatabase.load? bundle disk resource <;> simp [TrackerDatabase.publish]
      | edit k enabled url => simp [act, edit, withDisk, Act.table?]
      | resolve suffixes => simp [act, Act.table?]
      | proceed compiler events => simp [act, Act.table?]
    rw [run, List.foldl_cons, ← run, ih, hact, List.findSome?_cons]
    cases b.database.table <;> cases a.table? <;> rfl

/-- Two blockers answer alike: they differ at most in the allow-list for popups and in what is of no
account for answers. -/
structure AnswersAs (b b' : Blocker) : Prop where
  database : b.database = b'.database
  suffixes : b.suffixes = b'.suffixes
  ads : b.allowLists.ads = b'.allowLists.ads
  tracking : b.allowLists.tracking = b'.allowLists.tracking

theorem AnswersAs.classify (h : AnswersAs b b') (url : String) :
    b.classify url = b'.classify url := by
  rw [Blocker.classify, Blocker.classify, AllowLists.patterns, AllowLists.patterns, h.database,
    h.suffixes, h.ads, h.tracking]

theorem AnswersAs.act (h : AnswersAs b b') (a : Act) : AnswersAs (b.act a) (b'.act a) := by
  cases a with
  | load bundle disk resource =>
    refine ⟨?_, h.suffixes, h.ads, h.tracking⟩
    simp only [Blocker.act, h.database]
  | edit k enabled url =>
    have hads : (b.act (.edit k enabled url)).allowLists.ads =
      (b'.act (.edit k enabled url)).allowLists.ads := by
      simp only [Blocker.act, allowLists_edit]
      cases k <;> simp [AllowLists.set, AllowLists.get, h.ads]
    have htracking : (b.act (.edit k enabled url)).allowLists.tracking =
      (b'.act (.edit k enabled url)).allowLists.tracking := by
      simp only [Blocker.act, allowLists_edit]
      cases k <;> simp [AllowLists.set, AllowLists.get, h.tracking]
    exact ⟨h.database, h.suffixes, hads, htracking⟩
  | resolve suffixes => exact ⟨h.database, rfl, h.ads, h.tracking⟩
  | proceed compiler events => exact ⟨h.database, h.suffixes, h.ads, h.tracking⟩

theorem AnswersAs.editPopups (h : AnswersAs b b') {a : Act} (ha : a.editsPopups = true) :
    AnswersAs (b.act a) b' := by
  cases a with
  | edit k enabled url =>
    obtain rfl : k = .popups := by simpa [Act.editsPopups] using ha
    have hlists := allowLists_edit b .popups enabled url
    exact ⟨h.database, h.suffixes, (congrArg AllowLists.ads hlists).trans h.ads,
      (congrArg AllowLists.tracking hlists).trans h.tracking⟩
  | load | resolve | proceed => cases ha

/-- Edits of the allow-list for popups can be left out. -/
theorem AnswersAs.run (h : AnswersAs b b') (history : List Act) :
    AnswersAs (b.run history) (b'.run (history.filter fun a => !a.editsPopups)) := by
  induction history generalizing b b' with
  | nil => exact h
  | cons a history ih =>
    cases ha : a.editsPopups with
    | true =>
      rw [List.filter_cons_of_neg (by simp [ha])]
      exact ih (h.editPopups ha)
    | false =>
      rw [List.filter_cons_of_pos (by simp [ha])]
      exact ih (h.act a)

/-- A blocker with a published table answers its entry, unless the site is exempt. -/
theorem classify_eq_some_iff :
    b.classify url = some t ↔ ∃ table host, b.database.table = some table ∧
      Url.normalizedHost? url = some host ∧ table.get? (Site.ofHost b.suffixes host) = some t ∧
      ¬DomainPattern.matchesAny b.allowLists.patterns (Site.ofHost b.suffixes host) = true := by
  rw [classify, TrackerDatabase.classify, TrackerDatabase.askFor?]
  cases hhost : Url.normalizedHost? url with
  | none => simp
  | some host =>
    cases htable : b.database.table with
    | none => simp
    | some table =>
      simp only [Option.isSome_some, if_true, Option.bind_some, TrackerTable.lookup, hhost,
        Option.bind_eq_bind]
      cases hget : table.get? (Site.ofHost b.suffixes host) <;> simp [hget, and_comm]

/-- **A URL has the tracker that the first loaded table has for the site of its host**, unless the
site is below a domain on the allow-list for ads or for tracking.  The allow-list for popups is of
no account. -/
theorem classify_run_iff (config : Config) (compiler : Compiler) (suffixes : Option SuffixList)
    (history : List Act) (url : String)
    (hfits : ∀ domain, ((create config compiler suffixes).run history).allowLists.Exempts domain →
      DomainPattern.Fits (AllowList.Domains.wildcard domain)) :
    let b := (create config compiler suffixes).run history
    (∀ t, b.classify url = some t ↔ ∃ table host, history.findSome? Act.table? = some table ∧
        Url.normalizedHost? url = some host ∧ table.get? (Site.ofHost b.suffixes host) = some t ∧
        ∀ domain, b.allowLists.Exempts domain →
          ¬AllowLists.Below (Site.ofHost b.suffixes host) domain) ∧
      b.classify url = ((create config compiler suffixes).run
        (history.filter fun a => !a.editsPopups)).classify url := by
  intro b
  have htable : b.database.table = history.findSome? Act.table? := table_run _ history
  have hmatches : ∀ site, ¬DomainPattern.matchesAny b.allowLists.patterns site = true ↔
      ∀ domain, b.allowLists.Exempts domain → ¬AllowLists.Below site domain := by
    intro site
    rw [AllowLists.matchesAny_patterns_iff, not_exists]
    refine forall_congr' fun domain => ?_
    constructor
    · exact fun h hexempt hbelow => h ⟨hexempt, hfits domain hexempt, hbelow⟩
    · exact fun h hmatch => h hmatch.1 hmatch.2.2
  refine ⟨fun t => ?_, ?_⟩
  · rw [classify_eq_some_iff, htable]
    simp only [hmatches]
  · exact (AnswersAs.run ⟨rfl, rfl, rfl, rfl⟩ history).classify url

/-- The second database is ignored, and of the sites of the first one that is on the allow-list for
ads has no tracker any more, unlike the one on the allow-list for popups. -/
theorem classify_run_iff_of_two_databases :
    let bundle : Bundle := .memory ((∅ : Dict (String × Date)).insert "db"
      ("\x7b\"apps\":\x7b\"a\":\x7b\"cat\":\"cdn\"\x7d\x7d," ++
        "\"domains\":\x7b\"ads.com\":\"a\",\"b.org\":\"a\"\x7d\x7d", ⟨0⟩))
    let second : Bundle := .memory ((∅ : Dict (String × Date)).insert "db"
      ("\x7b\"apps\":\x7b\x7d,\"domains\":\x7b\x7d\x7d", ⟨0⟩))
    let disk := FileTree.empty [] ⟨0⟩
    let history : List Act := [.load bundle disk "missing", .load bundle disk "db",
      .edit .ads true "http://ads.com/", .load second disk "db", .edit .popups true "http://b.org/"]
    let b := (create .standard ⟨bundle, .memory ∅ 0, .memory ∅, disk⟩ none).run history
    b.classify "http://cdn.b.org/a.js" = some ⟨.cdn, "a"⟩ ∧
      b.classify "http://cdn.ads.com/a.js" = none := by
  intro bundle second disk history b
  have hads : b.allowLists.ads.domains.toList = ["ads.com"] := by decide +kernel
  have htracking : b.allowLists.tracking.domains.toList = [] := by decide +kernel
  have hexempt : ∀ domain, b.allowLists.Exempts domain ↔ domain = "ads.com" := by
    intro domain
    rw [AllowLists.Exempts, ← AllowList.Domains.mem_toList_iff, ← AllowList.Domains.mem_toList_iff,
      hads, htracking]
    simp
  have hfits : ∀ domain, b.allowLists.Exempts domain →
      DomainPattern.Fits (AllowList.Domains.wildcard domain) := by
    intro domain hdomain
    rw [(hexempt domain).1 hdomain, DomainPattern.Fits]
    decide +kernel
  have hget : (history.findSome? Act.table?).bind (·.get? "b.org") = some ⟨.cdn, "a"⟩ := by
    decide +kernel
  obtain ⟨table, htable, hentry⟩ := Option.bind_eq_some_iff.1 hget
  have hclassify := fun url => (classify_run_iff .standard ⟨bundle, .memory ∅ 0, .memory ∅, disk⟩
    none history url hfits).1
  have hother : Site.ofHost b.suffixes "cdn.b.org" = "b.org" := by decide +kernel
  have hsite : Site.ofHost b.suffixes "cdn.ads.com" = "ads.com" := by decide +kernel
  constructor
  · refine (hclassify _ _).2 ⟨table, "cdn.b.org", htable, by decide +kernel, ?_, ?_⟩
    · rw [hother]
      exact hentry
    · intro domain hdomain hbelow
      rw [(hexempt domain).1 hdomain, hother] at hbelow
      obtain hbelow | ⟨p, -, hbelow⟩ := hbelow
      · exact absurd hbelow (by decide)
      · have hlength := congrArg String.length hbelow
        have hdomain : (AllowLists.undotted "ads.com").length = 7 := by decide
        have hother : "b.org".length = 5 := rfl
        rw [String.length_append, hdomain, hother] at hlength
        omega
  · rw [Option.eq_none_iff_forall_ne_some]
    intro t ht
    obtain ⟨-, host, -, hhost, -, hall⟩ := (hclassify _ _).1 ht
    obtain rfl : "cdn.ads.com" = host := Option.some.inj ((by decide +kernel :
      some "cdn.ads.com" = Url.normalizedHost? "http://cdn.ads.com/a.js").trans hhost)
    refine hall "ads.com" ((hexempt _).2 rfl) ?_
    rw [hsite]
    exact .inl (by decide)

end Histories

end Blocker

end ContentBlocking
