import ContentBlocking.Proofs.Compiler.Memory
import ContentBlocking.Proofs.Rule.Removal

/-!
# What a purge of a directory leaves

A purge removes one identifier after the other, and each removal takes at most its own identifier
off the list (`Compiler.Unlisted`).  So what a purge of a directory leaves are the identifiers that
cannot be removed, such as those of subdirectories with the extension of a list.  If an unknown name
is among them, every purge of unknown names is followed by another one
(`Compiler.purged_iff_removable`).
-/

namespace ContentBlocking.Compiler

open RuleStore (IsListed RealNames isRemovable)

variable {c c' c'' : Compiler} {dir id : String} {ids gone gone' : List String}

/-! ### The list -/

theorem installedIds_of_identifiers (h : c.store.identifiers c.disk = .ok ids) :
    c.installedIds = ids := by
  rw [installedIds, h]

/-- The identifiers in the store are sorted, each of them once. -/
theorem pairwise_installedIds (c : Compiler) : c.installedIds.Pairwise (· < ·) := by
  rw [installedIds]
  cases hids : c.store.identifiers c.disk with
  | ok ids => exact RuleStore.pairwise_identifiers hids
  | error e => exact .nil

theorem nodup_installedIds (c : Compiler) : c.installedIds.Nodup :=
  c.pairwise_installedIds.imp ne_of_lt

/-- The identifiers of a directory were listed in it. -/
theorem identifiersIn_of_mem (hstore : c.store = .directory dir) (h : id ∈ c.installedIds) :
    RuleStore.identifiersIn dir c.disk = .ok c.installedIds := by
  have hids := identifiers_of_mem_installedIds h
  rwa [hstore, RuleStore.identifiers] at hids

theorem isListed_of_mem_installedIds (hstore : c.store = .directory dir)
    (hreal : RealNames dir c.disk) (h : id ∈ c.installedIds) : IsListed dir c.disk id :=
  RuleStore.isListed_of_mem hreal (identifiersIn_of_mem hstore h) h

/-! ### Removals -/

/-- Some identifiers were taken off the list of a directory, and the others are as they were. -/
structure Unlisted (dir : String) (gone : List String) (c c' : Compiler) : Prop where
  store : c'.store = c.store
  real : RealNames dir c'.disk
  ids : c'.installedIds = c.installedIds.filter fun id => !gone.contains id
  removable : ∀ id ∈ c'.installedIds, isRemovable dir c'.disk id = isRemovable dir c.disk id
  lookup : ∀ id ∈ c'.installedIds,
    c'.store.lookup id c'.disk = c.store.lookup id c.disk

protected theorem Unlisted.refl (hreal : RealNames dir c.disk) : Unlisted dir [] c c where
  store := rfl
  real := hreal
  ids := by simp
  removable _ _ := rfl
  lookup _ _ := rfl

protected theorem Unlisted.trans (h : Unlisted dir gone c c') (h' : Unlisted dir gone' c' c'') :
    Unlisted dir (gone ++ gone') c c'' := by
  have hsub : ∀ id ∈ c''.installedIds, id ∈ c'.installedIds := by
    intro id hid
    rw [h'.ids] at hid
    exact List.mem_of_mem_filter hid
  refine ⟨h'.store.trans h.store, h'.real, ?_, ?_, ?_⟩
  · rw [h'.ids, h.ids, List.filter_filter]
    refine List.filter_congr fun id _ => ?_
    rw [List.contains_append, Bool.not_or, Bool.and_comm]
  · exact fun id hid => (h'.removable id hid).trans (h.removable id (hsub id hid))
  · exact fun id hid => (h'.lookup id hid).trans (h.lookup id (hsub id hid))

theorem remove_eq_of_directory (hstore : c.store = .directory dir) :
    c.store.remove id c.disk = ((RuleStore.removeFrom dir id c.disk).1, c.store,
      (RuleStore.removeFrom dir id c.disk).2) := by
  rw [hstore, RuleStore.remove]

/-- **One removal takes its identifier off the list, if it can be removed.** -/
theorem unlisted_remove (hstore : c.store = .directory dir) (hreal : RealNames dir c.disk)
    (hid : id ∈ c.installedIds) :
    ((c.store.remove id c.disk).1 = .ok () ↔ isRemovable dir c.disk id = true) ∧
      Unlisted dir ([id].filter (isRemovable dir c.disk)) c (c.remove id).2 := by
  have hlisted := isListed_of_mem_installedIds hstore hreal hid
  rw [remove_snd, remove_eq_of_directory hstore]
  rcases hlisted.removeFrom with ⟨hremovable, t', hfile, hremove⟩ | ⟨hstays, cause, hremove⟩
  · have hids' : RuleStore.identifiersIn dir t' = .ok (c.installedIds.erase id) :=
      RuleStore.identifiersIn_removeFile hlisted (identifiersIn_of_mem hstore hid) hfile
    have hinstalled : installedIds { c with disk := t' } = c.installedIds.erase id := by
      refine installedIds_of_identifiers ?_
      simp only [hstore]
      exact hids'
    have hother : ∀ id' ∈ c.installedIds.erase id,
        IsListed dir c.disk id' ∧ id' ≠ id := by
      intro id' hid'
      obtain ⟨hne, hmem⟩ := c.nodup_installedIds.mem_erase_iff.1 hid'
      exact ⟨isListed_of_mem_installedIds hstore hreal hmem, hne⟩
    rw [hremove, List.filter_cons_of_pos hremovable]
    refine ⟨iff_of_true rfl hremovable, rfl, hreal.removeFile hfile, ?_, ?_, ?_⟩
    · rw [hinstalled, c.nodup_installedIds.erase_eq_filter]
      exact List.filter_congr fun id' _ => by simp [bne, beq_eq_decide]
    · rw [hinstalled]
      intro id' hid'
      obtain ⟨hlisted', hne⟩ := hother id' hid'
      exact RuleStore.isRemovable_removeFile hlisted hlisted' hne hfile
    · rw [hinstalled]
      intro id' hid'
      obtain ⟨hlisted', hne⟩ := hother id' hid'
      simp only [hstore]
      exact RuleStore.lookupIn_removeFile hlisted hlisted' hne hfile
  · rw [hremove, List.filter_cons_of_neg (by simp [hstays])]
    exact ⟨by simp [hstays], .refl hreal⟩

/-- Removals of listed identifiers take those off the list that can be removed. -/
theorem unlisted_removeEach (hstore : c.store = .directory dir) (hreal : RealNames dir c.disk)
    (hnodup : ids.Nodup) (hids : ids ⊆ c.installedIds) :
    Unlisted dir (ids.filter (isRemovable dir c.disk)) c (c.removeEach ids).2 := by
  induction ids generalizing c with
  | nil => exact .refl hreal
  | cons id ids ih =>
    obtain ⟨hnew, hnodup⟩ := List.nodup_cons.1 hnodup
    obtain ⟨-, hone⟩ := unlisted_remove hstore hreal (hids List.mem_cons_self)
    have hstill : ids ⊆ (c.remove id).2.installedIds := by
      intro id' hid'
      have hne : id' ≠ id := by
        rintro rfl
        exact hnew hid'
      rw [hone.ids, List.mem_filter]
      refine ⟨hids (List.mem_cons_of_mem _ hid'), ?_⟩
      simp [hne]
    have hrest := ih (hone.store.trans hstore) hone.real hnodup hstill
    -- whether the others can be removed has not changed
    have hsame : ids.filter (isRemovable dir (c.remove id).2.disk) =
        ids.filter (isRemovable dir c.disk) :=
      List.filter_congr fun id' hid' => hone.removable id' (hstill hid')
    rw [hsame] at hrest
    have hboth := hone.trans hrest
    rwa [← List.filter_append, List.singleton_append] at hboth

/-- What cannot be removed is left when everything was to be. -/
theorem installedIds_removeAll (hstore : c.store = .directory dir) (hreal : RealNames dir c.disk) :
    c.removeAll.2.installedIds = c.installedIds.filter fun id => !isRemovable dir c.disk id := by
  have hall := unlisted_removeEach hstore hreal c.nodup_installedIds (List.Subset.refl _)
  rw [removeAll, hall.ids]
  refine List.filter_congr fun id hid => ?_
  have hiff : (c.installedIds.filter (isRemovable dir c.disk)).contains id =
      isRemovable dir c.disk id := by
    rw [Bool.eq_iff_iff, List.contains_iff_mem, List.mem_filter]
    exact and_iff_right hid
  rw [hiff]

/-! ### Purges -/

theorem purgeByName_iff (c : Compiler) :
    c.purgeByName.1 = true ↔ ∃ id ∈ c.installedIds, Blocklist.ofFilename? id = none := by
  rw [purgeByName]
  by_cases hall : (c.installedIds.all fun id => (Blocklist.ofFilename? id).isSome) = true
  · rw [if_pos hall]
    refine iff_of_false Bool.false_ne_true ?_
    rintro ⟨id, hid, hnone⟩
    have hknown := List.all_eq_true.1 hall id hid
    rw [hnone] at hknown
    cases hknown
  · rw [if_neg hall]
    simp only [List.all_eq_true, not_forall, Option.not_isSome_iff_eq_none] at hall
    obtain ⟨id, hid, hnone⟩ := hall
    exact iff_of_true rfl ⟨id, hid, hnone⟩

/-- A purge is followed by another one if an unknown name cannot be removed. -/
theorem purgeByName_again_iff (hstore : c.store = .directory dir)
    (hreal : RealNames dir c.disk) :
    c.purgeByName.2.purgeByName.1 = true ↔
      ∃ id ∈ c.installedIds, Blocklist.ofFilename? id = none ∧
        isRemovable dir c.disk id = false := by
  rcases purgeByName_eq c with ⟨hknown, heq⟩ | heq
  · -- nothing is purged, now or later
    rw [heq, heq]
    refine iff_of_false Bool.false_ne_true ?_
    rintro ⟨id, hid, hnone, -⟩
    have := hknown id hid
    rw [hnone] at this
    cases this
  · rw [heq, purgeByName_iff, installedIds_removeAll hstore hreal]
    simp only [List.mem_filter, Bool.not_eq_true']
    constructor
    · rintro ⟨id, ⟨hid, hstays⟩, hnone⟩
      exact ⟨id, hid, hnone, hstays⟩
    · rintro ⟨id, hid, hnone, hstays⟩
      exact ⟨id, ⟨hid, hstays⟩, hnone⟩

/-- **What is listed can be removed exactly if it is a file within the limits of the disk.**  A
removal of such an identifier takes it off the list and changes nothing about the others; any other
removal fails.  So a purge leaves the identifiers that cannot be removed, and the store is empty
after it only if there are none; a purge by name is followed by another one if one of them is no
name of a list. -/
theorem purged_iff_removable (hstore : c.store = .directory dir) (hreal : RealNames dir c.disk) :
    (∀ id ∈ c.installedIds,
      ((c.store.remove id c.disk).1 = .ok () ↔ isRemovable dir c.disk id = true) ∧
      (c.remove id).2.installedIds =
        (if isRemovable dir c.disk id then c.installedIds.erase id else c.installedIds) ∧
      ∀ id' ∈ c.installedIds, id' ≠ id →
        (c.remove id).2.store.lookup id' (c.remove id).2.disk = c.store.lookup id' c.disk) ∧
    (c.removeAll.2.installedIds = c.installedIds.filter fun id => !isRemovable dir c.disk id) ∧
    (c.removeAll.2.installedIds = [] ↔
      ∀ id ∈ c.installedIds, isRemovable dir c.disk id = true) ∧
    (c.purgeByName.2.purgeByName.1 = true ↔
      ∃ id ∈ c.installedIds, Blocklist.ofFilename? id = none ∧
        isRemovable dir c.disk id = false) := by
  have hall := installedIds_removeAll hstore hreal
  refine ⟨fun id hid => ?_, hall, ?_, purgeByName_again_iff hstore hreal⟩
  · obtain ⟨hok, hone⟩ := unlisted_remove hstore hreal hid
    refine ⟨hok, ?_, fun id' hid' hne => hone.lookup id' ?_⟩
    · rw [hone.ids, c.nodup_installedIds.erase_eq_filter]
      by_cases hremovable : isRemovable dir c.disk id = true
      · rw [if_pos hremovable, List.filter_cons_of_pos hremovable]
        exact List.filter_congr fun id' _ => by simp [bne, beq_eq_decide]
      · rw [if_neg hremovable, List.filter_cons_of_neg hremovable]
        exact List.filter_eq_self.2 (by simp)
    · rw [hone.ids, List.mem_filter]
      refine ⟨hid', ?_⟩
      simp [List.mem_filter, hne]
  · rw [hall, List.filter_eq_nil_iff]
    simp

/-- The directory `rules` has a file `a.json` and a subdirectory `x.json`. -/
def withSubdirectory : Compiler :=
  { uniform "[]" ⟨0⟩ with
    store := .directory "rules"
    disk := (((FileTree.empty [] ⟨0⟩).put ["rules"] .directory).put ["rules", "a.json"]
      (.file (.text "[]") ⟨0⟩)).put ["rules", "x.json"] .directory }

theorem children_withSubdirectory :
    withSubdirectory.disk.children (Path.place withSubdirectory.disk.home "rules") =
      ["a.json", "x.json"] := by
  decide

theorem installedIds_withSubdirectory : withSubdirectory.installedIds = ["a", "x"] := by
  have hdir : withSubdirectory.disk.stat "rules" = .ok .directory := by
    rw [FileTree.stat_eq_ok_iff]
    exact ⟨["rules"], by with_unfolding_all decide, by decide⟩
  have hnames : withSubdirectory.disk.list "rules" = .ok ["a.json", "x.json"] := by
    rw [FileTree.list_of_directory hdir, children_withSubdirectory]
  have hstems : (["a.json", "x.json"].filter fun n =>
      Path.extension? n == some RuleStore.extension).map Path.stem = ["a", "x"] := by decide
  refine installedIds_of_identifiers ?_
  rw [withSubdirectory, RuleStore.identifiers, RuleStore.identifiersIn, ← withSubdirectory, hnames]
  simp only [hstems]
  rw [List.mergeSort_of_pairwise (by decide)]

/-- The subdirectory is listed and cannot be removed, so that every purge is followed by one. -/
theorem purged_again_of_subdirectory :
    withSubdirectory.installedIds = ["a", "x"] ∧
      (withSubdirectory.store.remove "x" withSubdirectory.disk).1 ≠ .ok () ∧
      withSubdirectory.removeAll.2.installedIds = ["x"] ∧
      withSubdirectory.purgeByName.2.purgeByName.1 = true := by
  have hreal : RealNames "rules" withSubdirectory.disk := by
    intro name hentry
    have hmem := FileTree.mem_children_iff.2 hentry
    rw [children_withSubdirectory] at hmem
    rcases List.mem_pair.1 hmem with rfl | rfl
    · exact ⟨by decide, by decide, by decide⟩
    · exact ⟨by decide, by decide, by decide⟩
  have hids := installedIds_withSubdirectory
  obtain ⟨hremove, hall, -, hagain⟩ := purged_iff_removable (c := withSubdirectory) rfl hreal
  refine ⟨hids, ?_, ?_, ?_⟩
  · rw [ne_eq, (hremove "x" (by rw [hids]; simp)).1]
    with_unfolding_all decide
  · rw [hall, hids]
    with_unfolding_all decide
  · exact hagain.2 ⟨"x", by rw [hids]; simp, by decide, by with_unfolding_all decide⟩

end ContentBlocking.Compiler
