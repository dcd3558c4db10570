import ContentBlocking.Proofs.Compiler.Purging
import ContentBlocking.Proofs.Compiler.Settling
import ContentBlocking.Proofs.Rule.Ready

/-!
# Rebuilds from nothing

A rebuild removes all lists and starts up.  It has no memory of what it finds: whatever two stores
held and whatever their markers were, both rebuilds give the same report, and the stores have the
same lists with the same rules after them (`Compiler.rebuild_forgets`).

Both purges of a startup may happen or not, but a store that has nothing loses nothing by them, and
a marker that is written is written elsewhere.  That is what `Compiler.Rebuildable` asks for: a
marker that is written into the directory of the store can pass for a list
(`Compiler.rebuild_remembers_marker`).
-/

namespace ContentBlocking

theorem Blocklist.fileId_filename (l : Blocklist) : RuleStore.FileId l.filename where
  toIsId := l.listName_filename.toIsId
  noNul := by cases l <;> decide
  short := by cases l <;> decide

namespace Compiler

open RuleStore (HasOnlyFiles MakesEmpty)

variable {c c' : Compiler} {rules : AllowRules} {texts : Blocklist → String}

/-! ### Emptied stores -/

/-- Nothing is left by some removals that was not there before them. -/
theorem entry_of_removeEach {ids : List String} {p : Place} {e : Entry}
    (h : FileTree.entry? (c.removeEach ids).2.disk p = some e) : c.disk.entry? p = some e := by
  induction ids generalizing c with
  | nil => exact h
  | cons id ids ih =>
    have hone := ih (c := (c.remove id).2) h
    rw [remove_snd] at hone
    exact RuleStore.entry_of_remove hone

/-- The store is ready, and has nothing. -/
structure Vacant (c : Compiler) : Prop where
  ready : c.store.Ready c.disk
  lacks : ∀ {id : String}, c.store.Admits id → c.store.Lacks c.disk id

theorem Vacant.installedIds (h : c.Vacant) : c.installedIds = [] := by
  refine List.eq_nil_iff_forall_not_mem.2 fun id hid => ?_
  obtain ⟨hadmits, hpresent⟩ := of_mem_installedIds h.ready.listable.plain hid
  exact hpresent (h.lacks hadmits)

theorem vacant_of_installedIds (hready : c.store.Ready c.disk) (hids : c.installedIds = []) :
    c.Vacant := by
  refine ⟨hready, fun {id} hadmits => ?_⟩
  by_contra hpresent
  have hmem := (mem_installedIds_iff hadmits hready.listable).2 hpresent
  rw [hids] at hmem
  cases hmem

theorem Vacant.removeAll (h : c.Vacant) : c.removeAll.2 = c := by
  rw [Compiler.removeAll, h.installedIds]
  rfl

theorem installedIds_of_makesEmpty {dir : String} (hstore : c.store = .directory dir)
    (h : MakesEmpty dir c.disk) : c.installedIds = [] := by
  obtain ⟨t, hmake, hempty⟩ := h
  refine List.eq_nil_iff_forall_not_mem.2 fun id hid => ?_
  have hrooted := RuleStore.rooted_of_mem_identifiers (identifiers_of_mem_installedIds hid) hid
  have hstat : c.disk.stat dir = .ok .directory := hrooted dir (by rw [hstore]; rfl)
  -- the directory is there, so making it changes nothing, and it has no entries
  rw [FileTree.createDirectories_of_directory hstat] at hmake
  obtain rfl := (Prod.mk.inj hmake).2
  have hids := identifiersIn_of_mem hstore hid
  obtain ⟨name, hname, -, -⟩ := (RuleStore.mem_identifiersIn_iff hempty hids).1 hid
  cases hname

/-- **A store that can be emptied is empty when all its lists are removed.** -/
theorem vacant_removeAll (h : c.store.Clearable c.disk) :
    c.removeAll.2.Vacant ∧ Touches Set.univ c c.removeAll.2 := by
  cases hstore : c.store with
  | memory lists n =>
    have hmemory : c.store.dir? = none := by rw [hstore]; rfl
    obtain ⟨hlist, hsmooth⟩ := purgesSmoothly_of_memory hmemory
    have htidy := RuleStore.tidy_of_memory hmemory c.disk.home
    refine ⟨⟨?_, fun hadmits => ?_⟩, touches_removeAll htidy hlist.plain⟩
    · exact RuleStore.ready_of_memory ((c.dir?_removeEach c.installedIds).trans hmemory) _
    · refine lacks_removeAll htidy hlist hsmooth ?_
      exact RuleStore.admits_of_dir? (c.dir?_removeEach c.installedIds).symm hadmits
  | directory dir =>
    rcases h dir (by rw [hstore]; rfl) with hfiles | hempty
    · have hready : c.store.Ready c.disk := by
        rw [hstore]
        exact hfiles.ready
      have htouch := touches_removeAll hready.tidy hready.listable.plain
      have hrooted : c.store.Rooted c.disk := by
        rw [hstore]
        exact RuleStore.rooted_of_directory hfiles.found
      refine ⟨vacant_of_installedIds ?_ ?_, htouch⟩
      · refine (htouch.store.rooted hrooted).ready (htouch.store.plain hready.listable.plain) ?_
        intro p hp hdirectory
        rw [RuleStore.inside_eq_of_dir? htouch.store.dir, htouch.home] at hp
        exact hready.files p hp (entry_of_removeEach hdirectory)
      · rw [installedIds_removeAll hstore hfiles.real, List.filter_eq_nil_iff]
        intro id hid
        simp [hfiles.isRemovable (identifiersIn_of_mem hstore hid) hid]
    · have hready : c.store.Ready c.disk := by
        obtain ⟨t, hmake, hlist⟩ := hempty
        rw [hstore]
        exact RuleStore.ready_of_made hmake hlist
      have hvacant := vacant_of_installedIds hready (installedIds_of_makesEmpty hstore hempty)
      rw [hvacant.removeAll]
      exact ⟨hvacant, .refl _ c⟩

/-! ### Markers elsewhere -/

/-- The bundle, the directory of the store and the file of markers share no files.  If the directory
of the store has to be made, no marker is in its way. -/
structure Unshared (c : Compiler) : Prop where
  bundle_store : ∀ (l : Blocklist), ∀ p ∈ c.bundle.placesOf c.disk.home l.filename,
    p ∉ c.store.inside c.disk.home
  bundle_markers : ∀ (l : Blocklist), ∀ p ∈ c.bundle.placesOf c.disk.home l.filename,
    p ∉ c.markers.written c.disk.home
  store_markers : ∀ p ∈ c.store.inside c.disk.home,
    p ∉ c.markers.way c.disk.home ∧ p ∉ c.markers.written c.disk.home
  way_markers : ¬c.store.Rooted c.disk → ∀ p ∈ c.store.way c.disk.home,
    p ∉ c.markers.written c.disk.home

theorem Unshared.separate (h : c.Unshared) (htidy : c.store.Tidy c.disk.home) : c.Separate where
  tidy := htidy
  bundle_store := h.bundle_store
  bundle_markers := h.bundle_markers
  store_markers l _ hp := h.store_markers _ (RuleStore.mem_inside_of_mem_placesOf (l.admits _) hp)

theorem Unshared.of_touches {ids : Set String} (h : c.Unshared) (ht : Touches ids c c') :
    c'.Unshared := by
  have hinside := RuleStore.inside_eq_of_dir? ht.store.dir
  have hway := RuleStore.way_eq_of_dir? ht.store.dir
  constructor
  · rw [ht.bundle, ht.home, hinside]
    exact h.bundle_store
  · rw [ht.bundle, ht.markers, ht.home]
    exact h.bundle_markers
  · rw [ht.markers, ht.home, hinside]
    exact h.store_markers
  · rw [ht.markers, ht.home, hway]
    exact fun hrooted => h.way_markers fun hrooted' => hrooted (ht.store.rooted hrooted')

theorem Unshared.mark (h : c.Unshared) (date : Date) : (c.mark date).Unshared := by
  have hconfined := c.confined_mark date
  have hhome := hconfined.home
  refine ⟨?_, ?_, ?_, fun hrooted => ?_⟩
  · rw [hhome]
    exact h.bundle_store
  · rw [hhome]
    simp only [Compiler.mark, MarkerStore.written_setDate]
    exact h.bundle_markers
  · rw [hhome]
    simp only [Compiler.mark, MarkerStore.written_setDate, MarkerStore.way_setDate]
    exact h.store_markers
  · rw [hhome]
    simp only [Compiler.mark, MarkerStore.written_setDate]
    exact h.way_markers fun hrooted' =>
      hrooted fun dir hdir => hconfined.stat_directory (hrooted' dir hdir)

/-- The directory of a store can be made after a marker was written elsewhere. -/
theorem makes_mark (h : c.Unshared) (hready : c.store.Ready c.disk) (date : Date) (dir : String)
    (hdir : c.store.dir? = some dir) :
    ∃ t, (c.mark date).disk.createDirectories dir = (.ok (), t) ∧ t.stat dir = .ok .directory := by
  have hconfined := c.confined_mark date
  by_cases hrooted : c.store.Rooted c.disk
  · have hstat := hconfined.stat_directory (hrooted dir hdir)
    exact ⟨_, FileTree.createDirectories_of_directory hstat, hstat⟩
  · obtain ⟨t, hmake, hstat⟩ := hready.makes dir hdir
    have hgrown := FileTree.grown_createDirectories c.disk dir
    rw [hmake] at hgrown
    have hway : c.store.way c.disk.home = Path.way c.disk.home dir := by
      rw [RuleStore.way, hdir]
      rfl
    obtain ⟨t', hmake'⟩ := FileTree.exists_createDirectories_of_includes
      ⟨hconfined.home, hconfined.directory⟩ hmake fun {p} hp => by
        rcases hgrown.entry p with heq | ⟨hmem, hnone, -⟩
        · exact .inr (hconfined.directory (heq.symm.trans hp))
        · -- a place on the way has no file, and no marker is written there
          rw [← hway] at hmem
          rcases c.markers.entry_setDate bundleDateKey date c.disk
            (h.way_markers hrooted p hmem) with heq | ⟨-, hdirectory⟩
          · exact .inl (heq.trans hnone)
          · exact .inr hdirectory
    exact ⟨t', hmake', FileTree.stat_of_createDirectories hmake' (FileTree.isEmpty_of_stat hstat)⟩

theorem Vacant.mark (hvacant : c.Vacant) (h : c.Unshared) (date : Date) :
    (c.mark date).Vacant where
  ready := hvacant.ready.of_confined (c.confined_mark date)
    (fun p hp => (h.store_markers p hp).1) (fun p hp => (h.store_markers p hp).2)
    (makes_mark h hvacant.ready date)
  lacks {id} hadmits := by
    have hinside : ∀ p ∈ c.store.placesOf c.disk.home id, p ∈ c.store.inside c.disk.home :=
      fun _ => RuleStore.mem_inside_of_mem_placesOf hadmits
    refine RuleStore.Lacks.of_confined (c.confined_mark date) (fun p hp => ?_) (fun p hp => ?_)
      (hvacant.lacks hadmits)
    · exact (h.store_markers p (hinside p hp)).1
    · exact (h.store_markers p (hinside p hp)).2

/-! ### Rebuilds -/

/-- The store can be emptied and filled from the bundle. -/
structure Rebuildable (texts : Blocklist → String) (c : Compiler) : Prop extends Unshared c where
  clearable : c.store.Clearable c.disk
  serves : c.Serves texts

/-- The store is empty and ready to be filled from the bundle. -/
structure Emptied (texts : Blocklist → String) (c : Compiler) : Prop extends
  Unshared c, Vacant c where
  serves : c.Serves texts

theorem Emptied.mark (h : c.Emptied texts) (date : Date) : (c.mark date).Emptied texts where
  toUnshared := h.toUnshared.mark date
  toVacant := h.toVacant.mark h.toUnshared date
  serves := serves_mark (h.separate h.ready.tidy) h.serves date

theorem Rebuildable.emptied (h : c.Rebuildable texts) : c.removeAll.2.Emptied texts := by
  obtain ⟨hvacant, htouch⟩ := vacant_removeAll h.clearable
  exact
    { toUnshared := h.toUnshared.of_touches htouch
      toVacant := hvacant
      serves := serves_of_confined _ htouch.bundle htouch.store.confined h.bundle_store h.serves }

/-- **Neither purge takes anything from an empty store**: a startup compiles all lists, after it has
marked the store or not. -/
theorem Emptied.exists_startup_eq (h : c.Emptied texts) (rules : AllowRules) :
    ∃ c' : Compiler, c'.Emptied texts ∧ c'.store = c.store ∧
      c.startup rules = c'.compileMissing rules := by
  have hname : ∀ {c' : Compiler}, c'.Emptied texts → c'.purgeByName = (false, c') := by
    intro c' h'
    refine purgeByName_of_known fun id hid => ?_
    rw [h'.installedIds] at hid
    cases hid
  rcases purgeByDate_eq c with ⟨-, hdate⟩ | ⟨newest, -, -, hdate⟩
  · refine ⟨c, h, rfl, ?_⟩
    rw [startup, hdate, hname h]
  · refine ⟨c.mark newest, h.mark newest, rfl, ?_⟩
    rw [startup, hdate, h.removeAll, hname (h.mark newest)]

/-- What a list is in an empty store after it was compiled, if it is there then. -/
def built? (s : RuleStore) (texts : Blocklist → String) (rules : AllowRules) (l : Blocklist) :
    Option (List Rule) :=
  if s.fits l.filename then l.compiled? (texts l) (rules l.kind) else none

/-- A list is compiled into a store that is ready, or its paths are too long. -/
theorem exists_compileList_of_ready (ht : c.Serves texts) (hr : Readable texts)
    (hready : c.store.Ready c.disk) (rules : AllowRules) (l : Blocklist) :
    ∃ c', c.compileList rules l = .ok ((built? c.store texts rules l).isSome, c') ∧
      Touches {l.filename} c c' ∧ c'.store.Ready c'.disk ∧
      (c.Has l none → c'.Has l (built? c.store texts rules l)) := by
  obtain ⟨source, hsource, hcompiled⟩ := exists_source_compiled? ht hr rules l
  obtain ⟨r, s, t, hcompile, hr', hbuilt⟩ :=
    hready.compile l.fileId_filename l.listName_filename source
  have ho : built? c.store texts rules l = r.toOption := by rw [built?, hcompiled, hr']
  rw [compileList_eq hsource, hcompile, ho]
  refine ⟨{ c with store := s, disk := t }, ?_, ⟨rfl, rfl, hbuilt.touches⟩, hbuilt.ready, ?_⟩
  · cases r <;> rfl
  · intro hlacks
    cases hoption : r.toOption with
    | none => exact hbuilt.lacks hoption hlacks
    | some rs => exact hbuilt.holds rs hoption

theorem built?_of_dir? {s s' : RuleStore} (h : s'.dir? = s.dir?) :
    built? s' texts rules = built? s texts rules := by
  funext l
  rw [built?, built?, RuleStore.fits_of_dir? h]

/-- The store has the lists with the rules of `built`, and nothing else. -/
structure HasExactly (c : Compiler) (built : Blocklist → Option (List Rule)) : Prop where
  identifiers : ∃ ids, c.store.identifiers c.disk = .ok ids ∧
    ∀ id, id ∈ ids ↔ ∃ l rs, built l = some rs ∧ l.filename = id
  lookup : ∀ l rs, built l = some rs → c.store.lookup l.filename c.disk = .ok rs

/-- What was put into an empty store is all that it has. -/
theorem Vacant.hasExactly {built : Blocklist → Option (List Rule)} (h : c.Vacant)
    (htouch : Touches {id | id ∈ Blocklist.all.map Blocklist.filename} c c')
    (hready : c'.store.Ready c'.disk) (hbuilt : ∀ l, c'.Has l (built l)) :
    c'.HasExactly built := by
  have hholds : ∀ l rs, built l = some rs → c'.store.Holds c'.disk l.filename rs := by
    intro l rs hl
    have hhas := hbuilt l
    rwa [hl] at hhas
  obtain ⟨ids, hids⟩ := hready.exists_identifiers
  refine ⟨⟨ids, hids, fun id => ⟨fun hid => ?_, ?_⟩⟩, hholds⟩
  · obtain ⟨hadmits, hpresent⟩ := RuleStore.of_mem_identifiers hready.listable.plain hids hid
    by_cases hknown : id ∈ Blocklist.all.map Blocklist.filename
    · obtain ⟨l, -, rfl⟩ := List.mem_map.1 hknown
      have hhas := hbuilt l
      cases hl : built l with
      | none =>
        rw [hl] at hhas
        exact absurd hhas hpresent
      | some rs => exact ⟨l, rs, hl, rfl⟩
    · -- nothing was put under an unknown name
      have hadmits' := RuleStore.admits_of_dir? htouch.store.dir.symm hadmits
      exact absurd (htouch.store.lacks hknown hadmits' (h.lacks hadmits')) hpresent
  · rintro ⟨l, rs, hl, rfl⟩
    have hlist := hready.listable
    exact (RuleStore.mem_identifiers_iff (l.admits _) hlist hids).2 (hholds l rs hl).not_lacks

/-- **A pass over an empty store compiles all lists.** -/
theorem Emptied.exists_compileMissing (h : c.Emptied texts) (hr : Readable texts)
    (rules : AllowRules) :
    ∃ b : Compiler, b.HasExactly (built? c.store texts rules) ∧ c.compileMissing rules =
      .ok (report [] (Blocklist.all.filter fun l => (built? c.store texts rules l).isSome), b) := by
  have hall := exists_compileEach_of rules
    (fun _ c' => c'.Separate ∧ c'.Serves texts ∧ c'.store.Ready c'.disk ∧
      c'.store.dir? = c.store.dir?)
    (built? c.store texts rules) (fun {l ls c'} ⟨hs, ht, hready, hdir⟩ => by
      obtain ⟨c₁, hone, htouch, hready₁, hhas⟩ := exists_compileList_of_ready ht hr hready rules l
      rw [built?_of_dir? hdir] at hone hhas
      exact ⟨c₁, hone, htouch, ⟨htouch.separate hs, htouch.serves hs ht, hready₁,
        htouch.store.dir.trans hdir⟩, hhas⟩)
    nodup_all ⟨h.separate h.ready.tidy, h.serves, h.ready, rfl⟩
  obtain ⟨b, heach, htouch, ⟨-, -, hready, -⟩, hhas⟩ := hall
  refine ⟨b, h.hasExactly htouch hready fun l => hhas l l.mem_all (h.lacks (l.admits _)), ?_⟩
  have hinstalled : c.installedLists = [] := by
    rw [installedLists, h.installedIds]
    rfl
  have hmissing : Blocklist.all.filter (fun l => !([] : List Blocklist).contains l) =
      Blocklist.all := rfl
  rw [compileMissing]
  simp only [hinstalled, hmissing, heach, ok_bind]
  rfl

/-- A rebuild compiles all lists, and the store has nothing else then. -/
theorem Rebuildable.exists_startup (h : c.Rebuildable texts) (hr : Readable texts)
    (rules : AllowRules) :
    ∃ b : Compiler, b.HasExactly (built? c.store texts rules) ∧ c.removeAll.2.startup rules =
      .ok (report [] (Blocklist.all.filter fun l => (built? c.store texts rules l).isSome), b) := by
  obtain ⟨c', h', hstore, hstartup⟩ := h.emptied.exists_startup_eq rules
  obtain ⟨b, hbuilt, hcompile⟩ := h'.exists_compileMissing hr rules
  have hdir : c'.store.dir? = c.store.dir? := by
    rw [hstore]
    exact c.dir?_removeEach c.installedIds
  rw [built?_of_dir? hdir] at hbuilt hcompile
  exact ⟨b, hbuilt, hstartup.trans hcompile⟩

/-- Stores that have exactly the same list the same. -/
theorem HasExactly.identifiers_eq {built : Blocklist → Option (List Rule)}
    (h : c.HasExactly built) (h' : c'.HasExactly built) {ids : List String}
    (hids : c.store.identifiers c.disk = .ok ids) : c'.store.identifiers c'.disk = .ok ids := by
  obtain ⟨ids₁, hids₁, hmem⟩ := h.identifiers
  obtain rfl := Except.ok.inj (hids₁.symm.trans hids)
  obtain ⟨ids', hids', hmem'⟩ := h'.identifiers
  rw [hids']
  exact congrArg _ ((RuleStore.pairwise_identifiers hids').eq_of_mem_iff
    (RuleStore.pairwise_identifiers hids) fun {id} => (hmem' id).trans (hmem id).symm)

/-- **A rebuild forgets what was there.**  If two compilers have stores of one kind, in the same
directory if they have one, and bundles with the same texts, then a startup after the removal of all
lists gives the same report for both, which finds nothing installed.  Their stores have the same
lists then, with the same rules. -/
theorem rebuild_forgets (h : c.Rebuildable texts) (h' : c'.Rebuildable texts)
    (hr : Readable texts) (hdir : c'.store.dir? = c.store.dir?) (rules : AllowRules) :
    ∃ report b b', c.removeAll.2.startup rules = .ok (report, b) ∧
      c'.removeAll.2.startup rules = .ok (report, b') ∧ report.alreadyInstalled = [] ∧
      ∃ ids, b.store.identifiers b.disk = .ok ids ∧ b'.store.identifiers b'.disk = .ok ids ∧
        ∀ id ∈ ids, ∃ rs, b.store.lookup id b.disk = .ok rs ∧
          b'.store.lookup id b'.disk = .ok rs := by
  obtain ⟨b, hbuilt, hstartup⟩ := h.exists_startup hr rules
  obtain ⟨b', hbuilt', hstartup'⟩ := h'.exists_startup hr rules
  rw [built?_of_dir? hdir] at hbuilt' hstartup'
  obtain ⟨ids, hids, hmem⟩ := hbuilt.identifiers
  refine ⟨_, b, b', hstartup, hstartup', rfl, ids, hids, hbuilt.identifiers_eq hbuilt' hids, ?_⟩
  intro id hid
  obtain ⟨l, rs, hl, rfl⟩ := (hmem id).1 hid
  exact ⟨rs, hbuilt.lookup l rs hl, hbuilt'.lookup l rs hl⟩

/-- The directory `rules` with the file of a list that is unknown. -/
def withOldList : Compiler :=
  { uniform "[]" ⟨0⟩ with
    store := .directory "rules"
    markers := .file "markers.json" ∅
    disk := ((FileTree.empty [] ⟨0⟩).put ["rules"] .directory).put ["rules", "old.json"]
      (.file (.text "[") ⟨0⟩) }

theorem rebuildable_withOldList : withOldList.Rebuildable fun _ => "[]" := by
  have hfiles : HasOnlyFiles "rules" withOldList.disk := by
    have hchildren : withOldList.disk.children (Path.place withOldList.disk.home "rules") =
        ["old.json"] := by decide
    refine RuleStore.hasOnlyFiles_of_children (by decide) ?_ ?_
    · rw [FileTree.stat_eq_ok_iff]
      -- the search for a slash at the front of a path is irreducible
      exact ⟨["rules"], by with_unfolding_all decide, by decide⟩
    · rw [hchildren, List.forall_mem_singleton]
      exact ⟨⟨by decide, by decide, by decide⟩, by decide⟩
  have hwritten : ∀ p ∈ withOldList.markers.written withOldList.disk.home, p.length = 1 := by
    rintro p (rfl | rfl) <;> decide
  have hway : ∀ p ∈ withOldList.markers.way withOldList.disk.home, p.length ≤ 1 := by
    rintro p ⟨front, hfront, rfl⟩
    have hparts : Text.splitOn '/' "markers.json".toList = [] ++ ["markers.json".toList] := rfl
    rw [hparts] at hfront
    rcases List.prefix_concat_iff.1 hfront with rfl | hfront
    · decide
    · rw [List.prefix_nil.1 hfront]
      decide
  have hinside : ∀ p ∈ withOldList.store.inside withOldList.disk.home, p.length = 2 := by
    rintro p ⟨name, rfl⟩
    rw [List.length_append]
    rfl
  exact
    { bundle_store := fun _ p hp => absurd hp (Set.notMem_empty p)
      bundle_markers := fun _ p hp => absurd hp (Set.notMem_empty p)
      store_markers := fun p hp => by
        have hlength := hinside p hp
        refine ⟨fun hmem => ?_, fun hmem => ?_⟩
        · have := hway p hmem
          omega
        · have := hwritten p hmem
          omega
      way_markers := fun hrooted => absurd (RuleStore.rooted_of_directory hfiles.found) hrooted
      clearable := fun dir hdir => by
        obtain rfl : "rules" = dir := Option.some.inj hdir
        exact .inl hfiles
      serves := serves_uniform "[]" ⟨0⟩ }

/-- No directory and a marker of the bundle's date. -/
def withMarker : Compiler :=
  { uniform "[]" ⟨0⟩ with
    store := .directory "rules"
    markers := .memory ((∅ : Dict Date).insert bundleDateKey ⟨0⟩) }

theorem rebuildable_withMarker : withMarker.Rebuildable fun _ => "[]" where
  bundle_store _ p hp := absurd hp (Set.notMem_empty p)
  bundle_markers _ p hp := absurd hp (Set.notMem_empty p)
  store_markers p _ := ⟨Set.notMem_empty p, Set.notMem_empty p⟩
  way_markers _ p _ := Set.notMem_empty p
  clearable dir hdir := by
    obtain rfl : "rules" = dir := Option.some.inj hdir
    refine .inr ⟨(withMarker.disk.createDirectories "rules").2, ?_, by with_unfolding_all decide⟩
    exact Prod.ext (by with_unfolding_all decide) rfl
  serves := serves_uniform "[]" ⟨0⟩

/-- A store with an unknown list and no marker, and one that is missing and has its marker. -/
theorem rebuild_forgets_unknown_list :
    ∃ report b b', withOldList.removeAll.2.startup (fun _ => none) = .ok (report, b) ∧
      withMarker.removeAll.2.startup (fun _ => none) = .ok (report, b') ∧
      report.alreadyInstalled = [] ∧
      ∃ ids, b.store.identifiers b.disk = .ok ids ∧ b'.store.identifiers b'.disk = .ok ids ∧
        ∀ id ∈ ids, ∃ rs, b.store.lookup id b.disk = .ok rs ∧
          b'.store.lookup id b'.disk = .ok rs :=
  rebuild_forgets rebuildable_withOldList rebuildable_withMarker readable_empty rfl fun _ => none

/-- A disk with an empty directory `rules`. -/
def emptyRules : FileTree := (FileTree.empty [] ⟨0⟩).put ["rules"] .directory

theorem hasOnlyFiles_emptyRules : HasOnlyFiles "rules" emptyRules := by
  have hchildren : emptyRules.children (Path.place emptyRules.home "rules") = [] := by
    decide
  refine RuleStore.hasOnlyFiles_of_children (by decide) ?_ ?_
  · rw [FileTree.stat_eq_ok_iff]
    exact ⟨["rules"], by with_unfolding_all decide, by decide⟩
  · rw [hchildren]
    exact fun _ hname => by cases hname

/-- Markers that are kept in the directory of the store, under the name of a list. -/
def withMarkersInside (markers : Dict Nat) : Compiler :=
  { uniform "[]" ⟨0⟩ with
    store := .directory "rules"
    markers := .file "rules/safari-ads-network.json" markers
    disk := emptyRules }

theorem installedIds_mark_withMarkersInside :
    ((withMarkersInside ∅).mark ⟨0⟩).installedIds = ["safari-ads-network"] := by
  have hdir : ((withMarkersInside ∅).mark ⟨0⟩).disk.stat "rules" = .ok .directory := by
    rw [FileTree.stat_eq_ok_iff]
    exact ⟨["rules"], by with_unfolding_all decide, by with_unfolding_all decide⟩
  have hnames : ((withMarkersInside ∅).mark ⟨0⟩).disk.list "rules" =
      .ok ["safari-ads-network.json"] := by
    rw [FileTree.list_of_directory hdir]
    with_unfolding_all decide
  have hstems : (["safari-ads-network.json"].filter fun n =>
      Path.extension? n == some RuleStore.extension).map Path.stem = ["safari-ads-network"] := by
    decide
  refine installedIds_of_identifiers ?_
  rw [store_mark, withMarkersInside, RuleStore.identifiers, RuleStore.identifiersIn,
    ← withMarkersInside, hnames]
  simp only [hstems, List.mergeSort_singleton]

theorem removeAll_withMarkersInside (markers : Dict Nat) :
    (withMarkersInside markers).removeAll.2 = withMarkersInside markers := by
  have hempty : MakesEmpty "rules" emptyRules :=
    ⟨emptyRules, FileTree.createDirectories_of_directory hasOnlyFiles_emptyRules.found,
      by with_unfolding_all decide⟩
  exact (vacant_of_installedIds hasOnlyFiles_emptyRules.ready
    (installedIds_of_makesEmpty (c := withMarkersInside markers) rfl hempty)).removeAll

/-- A startup writes the marker, and then compiles what is missing. -/
theorem startup_withMarkersInside (rules : AllowRules) :
    (withMarkersInside ∅).startup rules =
      ((withMarkersInside ∅).mark ⟨0⟩).compileMissing rules := by
  have hnewest : (withMarkersInside ∅).newestBundleDate? = some ⟨0⟩ := rfl
  have hstale : (withMarkersInside ∅).isStale ⟨0⟩ = true := rfl
  have hdate : (withMarkersInside ∅).purgeByDate.2 = (withMarkersInside ∅).mark ⟨0⟩ := by
    rw [purgeByDate, hnewest]
    simp only [hstale, if_true, removeAll_withMarkersInside]
  have hname := purgeByName_of_known (c := (withMarkersInside ∅).mark ⟨0⟩) fun id hid => by
    rw [installedIds_mark_withMarkersInside] at hid
    exact ⟨.advertisingNetwork, (List.mem_singleton.1 hid).symm⟩
  rw [startup, hdate, hname]

/-- Two rebuilds of the same empty directory, one without a marker and one with it.  The first one
writes its marker there, and the file passes for a list that is installed. -/
theorem rebuild_remembers_marker :
    HasOnlyFiles "rules" emptyRules ∧
      ¬∃ report b b',
        (withMarkersInside ∅).removeAll.2.startup (fun _ => none) = .ok (report, b) ∧
        (withMarkersInside ((∅ : Dict Nat).insert bundleDateKey 0)).removeAll.2.startup
          (fun _ => none) = .ok (report, b') ∧
        report.alreadyInstalled = [] := by
  refine ⟨hasOnlyFiles_emptyRules, ?_⟩
  rintro ⟨report, b, -, hstartup, -, hnone⟩
  rw [removeAll_withMarkersInside, startup_withMarkersInside] at hstartup
  obtain ⟨⟨compiled, c'⟩, -, hreport⟩ := bind_eq_ok.1 hstartup
  obtain ⟨rfl, -⟩ := Prod.mk.inj (Except.ok.inj hreport)
  have hmem : Blocklist.advertisingNetwork ∈ ((withMarkersInside ∅).mark ⟨0⟩).installedLists := by
    rw [installedLists, installedIds_mark_withMarkersInside]
    decide
  have hinstalled : Blocklist.advertisingNetwork ∈
      (Compiler.report _ compiled).alreadyInstalled := mem_installed_report.2 hmem
  rw [hnone] at hinstalled
  cases hinstalled

end Compiler

end ContentBlocking
