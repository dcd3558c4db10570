import ContentBlocking.Proofs.Compiler.Memory
import ContentBlocking.Proofs.Compiler.Startup

/-!
# Startups settle

A second startup of a compiler whose store is in memory finds nothing to do
(`Compiler.startup_settles`): the store is no longer older than the bundle, it has no unknown list,
and the lists that it lacks are those that do not compile.  Only where the date of the bundle is
lost (`Compiler.LosesDate`) does every startup begin anew.
-/

namespace ContentBlocking.Compiler

variable {c c' : Compiler} {rules : AllowRules} {texts : Blocklist → String}

/-! ### Nothing to do -/

theorem purgeByDate_of_not (h : ¬c.purgeByDate.1 = true) : c.purgeByDate = (false, c) := by
  rcases purgeByDate_eq c with ⟨hfalse, hsame⟩ | ⟨newest, -, -, heq⟩
  · exact Prod.ext hfalse hsame
  · rw [heq] at h
    exact absurd rfl h

theorem purgeByName_of_known (h : ∀ id ∈ c.installedIds, ∃ l : Blocklist, l.filename = id) :
    c.purgeByName = (false, c) := by
  have hall : (c.installedIds.all fun id => (Blocklist.ofFilename? id).isSome) = true := by
    refine List.all_eq_true.2 fun id hid => ?_
    obtain ⟨l, hl⟩ := h id hid
    rw [Blocklist.ofFilename?_eq_some_iff.2 hl]
    rfl
  rw [purgeByName, if_pos hall]

/-- Lists that do not compile leave the compiler as it is. -/
theorem compileEach_of_invalid (ht : c.Serves texts) (hr : Readable texts) {ls : List Blocklist}
    (h : ∀ l ∈ ls, l.compiled? (texts l) (rules l.kind) = none) :
    c.compileEach rules ls = .ok ([], c) := by
  induction ls with
  | nil => rfl
  | cons l ls ih =>
    obtain ⟨source, hsource, hcompiled⟩ := exists_source_compiled? ht hr rules l
    have hinvalid := h l List.mem_cons_self
    rw [hcompiled] at hinvalid
    cases hcause : RuleList.ofText source with
    | ok rs =>
      simp only [hcause] at hinvalid
      cases hinvalid
    | error cause =>
      have hone : c.compileList rules l = .ok (false, c) := by
        rw [compileList_eq hsource, RuleStore.compile_of_error hcause]
        rfl
      have hrest := ih fun m hm => h m (List.mem_cons_of_mem l hm)
      rw [compileEach, hone, ok_bind]
      simp only [hrest, ok_bind]
      rfl

theorem compileMissing_of_invalid (ht : c.Serves texts) (hr : Readable texts)
    (h : ∀ l ∈ c.missing, l.compiled? (texts l) (rules l.kind) = none) :
    c.compileMissing rules = .ok (report c.installedLists [], c) := by
  have hcompile := compileEach_of_invalid ht hr h
  rw [missing] at hcompile
  rw [compileMissing]
  simp only [hcompile, ok_bind]
  rfl

/-! ### Two startups -/

/-- A startup after a pass with the same rules compiles nothing, if it purges nothing: what is
missing now has failed before, and fails again. -/
theorem exists_startup_of_refreshed {dropped : Blocklist → Prop} {report : CompileReport}
    (h : Refreshed texts rules dropped c report c') (hr : Readable texts)
    (hstore : c'.store.dir? = none) (hdate : c'.purgeByDate = (false, c'))
    (hname : c'.purgeByName = (false, c')) :
    ∃ report', c'.startup rules = .ok (report', c') ∧ report'.compiled = [] ∧
      (∀ l, l ∈ report'.alreadyInstalled ↔ l ∈ report.compiled ∨ l ∈ report.alreadyInstalled) ∧
      report'.failed = report.failed := by
  have hlist := RuleStore.listable_of_memory hstore c'.disk
  have hinvalid : ∀ l ∈ c'.missing, l.compiled? (texts l) (rules l.kind) = none := by
    intro l hl
    have hfailed := h.has_none_iff.1 ((mem_missing_iff hlist).1 hl)
    exact Option.not_isSome_iff_eq_none.1 (h.failed.1 hfailed).2
  have hmissing := compileMissing_of_invalid h.serves hr hinvalid
  have hstartup : c'.startup rules = .ok (Compiler.report c'.installedLists [], c') := by
    rw [startup, hdate, hname]
    exact hmissing
  obtain ⟨report', c'', hcompile, -, -, hagain⟩ := exists_compileMissing h.separate h.serves hr
    (compilesMissingSmoothly_of_memory hstore rules)
  obtain ⟨rfl, rfl⟩ := Prod.mk.inj (Except.ok.inj (hmissing.symm.trans hcompile))
  refine ⟨_, hstartup, ?_, fun l => ?_, ?_⟩
  · exact hagain.ordered.1.ext (inOrder_filter fun _ => false) (by simp [mem_compiled_report])
  · rw [hagain.installed, false_or, h.has_none_iff, h.not_failed_iff]
  · refine hagain.ordered.2.2.ext h.ordered.2.2 fun l => ?_
    rw [← hagain.has_none_iff, h.has_none_iff]

/-- **Startups settle.**  After a startup the store has the lists that compiled or were there, and
nothing else.  Unless the date of the bundle is lost, a second startup with the same rules purges
nothing, compiles nothing and changes nothing, and its report has the same lists.  No marker is
written into the bundle, so both startups have the same one. -/
theorem startup_settles (hstore : c.store.dir? = none)
    (hshared : ∀ (l : Blocklist), ∀ p ∈ c.bundle.placesOf c.disk.home l.filename,
      p ∉ c.markers.written c.disk.home)
    (ht : c.Serves texts) (hr : Readable texts) (rules : AllowRules) :
    ∃ report c', c.startup rules = .ok (report, c') ∧
      (∃ ids, c'.store.identifiers c'.disk = .ok ids ∧ ∀ id, id ∈ ids ↔
        ∃ l : Blocklist, (l ∈ report.compiled ∨ l ∈ report.alreadyInstalled) ∧ l.filename = id) ∧
      (c'.purgeByDate.1 = true ↔ c.LosesDate) ∧
      (¬c.LosesDate → c'.purgeByDate = (false, c') ∧ c'.purgeByName = (false, c') ∧
        ∃ report', c'.startup rules = .ok (report', c') ∧ report'.compiled = [] ∧
          (∀ l, l ∈ report'.alreadyInstalled ↔
            l ∈ report.compiled ∨ l ∈ report.alreadyInstalled) ∧
          report'.failed = report.failed) := by
  have hs := separate_of_memory hstore hshared
  have hsmooth := startsSmoothly_of_memory hstore rules
  obtain ⟨report, c', hstartup, hmarkers, htouch, hrefreshed⟩ := exists_startup hs ht hr hsmooth
  have hstore' : c'.store.dir? = none := (dir?_startup hstartup).trans hstore
  have hlist' := RuleStore.listable_of_memory hstore' c'.disk
  have hagain := purges_again_iff hmarkers hrefreshed.newest
  obtain ⟨ids, hids⟩ := RuleStore.exists_identifiers_of_memory hstore' c'.disk
  have hknown : ∀ id ∈ ids, ∃ l : Blocklist, l.filename = id ∧ ¬c'.Has l none := fun id hid =>
    exists_of_mem_identifiers hs ht hsmooth htouch hids hid
  refine ⟨report, c', hstartup, ⟨ids, hids, fun id => ?_⟩, hagain, fun hkept => ?_⟩
  · constructor
    · intro hid
      obtain ⟨l, rfl, hpresent⟩ := hknown id hid
      rw [hrefreshed.has_none_iff] at hpresent
      exact ⟨l, hrefreshed.not_failed_iff.1 hpresent, rfl⟩
    · rintro ⟨l, hl, rfl⟩
      rw [← hrefreshed.not_failed_iff, ← hrefreshed.has_none_iff] at hl
      exact (RuleStore.mem_identifiers_iff (l.admits _) hlist' hids).2 hl
  · have hdate := purgeByDate_of_not fun hpurged => hkept (hagain.1 hpurged)
    have hname : c'.purgeByName = (false, c') := by
      refine purgeByName_of_known fun id hid => ?_
      rw [installedIds, hids] at hid
      obtain ⟨l, hl, -⟩ := hknown id hid
      exact ⟨l, hl⟩
    exact ⟨hdate, hname, exists_startup_of_refreshed hrefreshed hr hstore' hdate hname⟩

/-- A startup with markers of an earlier year, an unknown list and a bundle from before the
epoch. -/
theorem startup_settles_of_marker :
    let c := { uniform "[]" ⟨-1⟩ with
      store := .memory (.ofList [("old", [])]) 0
      markers := .file "markers.json" (.ofList [(bundleDateKey, 5)]) }
    ∃ report c' report', c.startup (fun _ => none) = .ok (report, c') ∧
      c'.startup (fun _ => none) = .ok (report', c') ∧ report'.compiled = [] ∧
      report'.failed = report.failed := by
  intro c
  have hkept : ¬c.LosesDate := by
    rintro ⟨-, hnone, -⟩
    cases hnone
  obtain ⟨report, c', hstartup, -, -, hsettled⟩ := startup_settles (c := c) rfl
    (fun _ p hp => absurd hp (Set.notMem_empty p)) (serves_uniform "[]" ⟨-1⟩) readable_empty
    fun _ => none
  obtain ⟨-, -, report', hagain, hcompiled, -, hfailed⟩ := hsettled hkept
  exact ⟨report, c', report', hstartup, hagain, hcompiled, hfailed⟩

/-! ### Lost dates -/

/-- Passes that drop or miss the same lists have the same report. -/
theorem Refreshed.report_eq {b b' : Compiler} {dropped dropped' : Blocklist → Prop}
    {r r' : CompileReport} (h : Refreshed texts rules dropped b r b')
    (h' : Refreshed texts rules dropped' c r' c')
    (hiff : ∀ l, dropped l ∨ b.Has l none ↔ dropped' l ∨ c.Has l none) : r = r' := by
  have hcompiled := h.ordered.1.ext h'.ordered.1 fun l => by
    rw [h.compiled, h'.compiled, hiff]
  have hinstalled := h.ordered.2.1.ext h'.ordered.2.1 fun l => by
    rw [h.installed, h'.installed, hiff]
  have hfailed := h.ordered.2.2.ext h'.ordered.2.2 fun l => by
    rw [h.failed, h'.failed, hiff]
  obtain ⟨compiled, installed, failed⟩ := r
  obtain ⟨compiled', installed', failed'⟩ := r'
  exact (CompileReport.mk.injEq ..).mpr ⟨hcompiled, hinstalled, hfailed⟩

/-- A startup that loses the date of the bundle begins anew each time. -/
theorem startup_again_of_losesDate (hs : c.Separate) (hstore : c.store.dir? = none)
    (ht : c.Serves texts) (hr : Readable texts) (hlost : c.LosesDate) (rules : AllowRules) :
    ∃ report c' c'', c.startup rules = .ok (report, c') ∧ c'.purgeByDate.1 = true ∧
      c'.startup rules = .ok (report, c'') ∧
      ∀ l, l ∈ report.compiled ↔ (l.compiled? (texts l) (rules l.kind)).isSome = true := by
  obtain ⟨report, c', hstartup, hmarkers, -, hrefreshed⟩ :=
    exists_startup hs ht hr (startsSmoothly_of_memory hstore rules)
  have hagain := (purges_again_iff hmarkers hrefreshed.newest).2 hlost
  obtain ⟨report', c'', hstartup', -, -, hrefreshed'⟩ := exists_startup hrefreshed.separate
    hrefreshed.serves hr (startsSmoothly_of_memory ((dir?_startup hstartup).trans hstore) rules)
  obtain ⟨-, hnone, newest, hnewest, -⟩ := hlost
  have hpurges : c.Purges :=
    .inl ((purgeByDate_iff c).2 ⟨newest, hnewest, by rw [isStale, hnone]⟩)
  have hpurges' : c'.Purges := .inl hagain
  obtain rfl := hrefreshed.report_eq hrefreshed' fun l => iff_of_true (.inl hpurges) (.inl hpurges')
  refine ⟨report, c', c'', hstartup, hagain, hstartup', fun l => ?_⟩
  rw [hrefreshed.compiled]
  exact and_iff_right (.inl hpurges)

/-- A file of markers cannot keep a date before the epoch. -/
theorem startup_not_settled :
    let c := { uniform "[]" ⟨-1⟩ with markers := .file "markers.json" ∅ }
    ∃ report c' c'', c.startup (fun _ => none) = .ok (report, c') ∧ c'.purgeByDate.1 = true ∧
      c'.startup (fun _ => none) = .ok (report, c'') ∧ ∀ l, l ∈ report.compiled := by
  intro c
  have hlost : c.LosesDate := ⟨trivial, rfl, ⟨-1⟩, rfl, rfl⟩
  have hs : c.Separate := separate_of_memory rfl fun _ p hp => absurd hp (Set.notMem_empty p)
  obtain ⟨report, c', c'', hstartup, hpurged, hagain, hcompiled⟩ :=
    startup_again_of_losesDate hs rfl (serves_uniform "[]" ⟨-1⟩) readable_empty hlost fun _ => none
  refine ⟨report, c', c'', hstartup, hpurged, hagain, fun l => (hcompiled l).2 ?_⟩
  exact isSome_compiled?_empty l

end ContentBlocking.Compiler
