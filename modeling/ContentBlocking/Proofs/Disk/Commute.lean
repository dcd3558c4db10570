import ContentBlocking.Proofs.Disk.AllOrNothing

/-!
# Replacements of different files commute

Whether a text can be put in the place of a file depends on the directories of the disk alone
(`FileTree.CanReplace`), and a replacement leaves those as they are.  So two replacements of
different files can be made in either order, and the disk is the same after both
(`FileTree.replaceText_swap`).  The same goes for replacements that first make their directory
(`FileTree.replaceTextBelow_swap`): the first of them makes it, and the second finds it.
-/

namespace ContentBlocking.FileTree

variable {t t₁ t₂ t' : FileTree} {dir beside target text beside' target' text' : String}

/-! ### Directories -/

/-- Two trees have the same directories. -/
structure SameDirectories (t t' : FileTree) : Prop where
  home : t'.home = t.home
  now : t'.now = t.now
  directory : ∀ p, t'.entry? p = some .directory ↔ t.entry? p = some .directory

protected theorem SameDirectories.symm (h : SameDirectories t t') : SameDirectories t' t where
  home := h.home.symm
  now := h.now.symm
  directory p := (h.directory p).symm

theorem SameDirectories.resolve_eq_ok (h : SameDirectories t t') {path : String} {p : Place}
    (hp : t.resolve path = .ok p) : t'.resolve path = .ok p :=
  resolve_eq_ok_of_directories h.home (fun q => (h.directory q).2) hp

/-- Files may come and go where no directory is. -/
theorem sameDirectories_put {p : Place} (hp : t.entry? p ≠ some .directory) (content : Content)
    (date : Date) : SameDirectories t (t.put p (.file content date)) := by
  refine ⟨rfl, rfl, fun q => ?_⟩
  rw [entryAt_put (ne_nil_of_not_directory hp)]
  split_ifs with hq
  · subst hq
    exact iff_of_false (by simp) hp
  · rfl

/-! ### Replacements -/

/-- The tree with a text in the file at `q`, which was first written to `p`. -/
def replaced (t : FileTree) (p q : Place) (text : String) : FileTree :=
  (t.drop p).put q (.file (.text text) t.now)

/-- Neither of the two files of a replacement is in the place of a directory. -/
structure CanReplace (t : FileTree) (beside target : String) : Prop where
  resolve_beside : t.resolve beside = .ok (Path.place t.home beside)
  beside_file : t.entry? (Path.place t.home beside) ≠ some .directory
  resolve_target : t.resolve target = .ok (Path.place t.home target)
  target_file : t.entry? (Path.place t.home target) ≠ some .directory

theorem CanReplace.congr (hsame : SameDirectories t t') (h : t.CanReplace beside target) :
    t'.CanReplace beside target := by
  constructor
  · rw [hsame.home]
    exact hsame.resolve_eq_ok h.resolve_beside
  · rw [hsame.home, ne_eq, hsame.directory]
    exact h.beside_file
  · rw [hsame.home]
    exact hsame.resolve_eq_ok h.resolve_target
  · rw [hsame.home, ne_eq, hsame.directory]
    exact h.target_file

/-- A file that was written and is moved away leaves nothing. -/
theorem drop_put (t : FileTree) (p : Place) (e : Entry) : (t.put p e).drop p = t.drop p := by
  have hentries : (t.entries.insert p e).erase p = t.entries.erase p := by
    refine Std.ExtTreeMap.ext_getElem? fun q => ?_
    rw [Std.ExtTreeMap.getElem?_erase, Std.ExtTreeMap.getElem?_erase]
    split_ifs with hq
    · rfl
    · rw [Std.ExtTreeMap.getElem?_insert, if_neg hq]
  rw [drop, put, hentries]
  rfl

/-- **A replacement succeeds exactly if no directory is in the place of a file.** -/
theorem replaceText_eq_ok_iff :
    t.replaceText beside target text = (.ok (), t') ↔ t.CanReplace beside target ∧
      t' = t.replaced (Path.place t.home beside) (Path.place t.home target) text := by
  constructor
  · intro h
    rw [replaceText] at h
    cases hwrite : t.writeText beside text with
    | error e => simp [hwrite] at h
    | ok t₁ =>
      simp only [hwrite] at h
      obtain ⟨hbeside, hfile, rfl⟩ := writeText_eq_ok hwrite
      -- the file beside the target is no directory, so the target is looked for as before
      have hsame := sameDirectories_put hfile (.text text) t.now
      cases hrename : (t.put (Path.place t.home beside) (.file (.text text) t.now)).rename
          beside target with
      | error e => simp [hrename] at h
      | ok t₂ =>
        simp only [hrename, Prod.mk.injEq, true_and] at h
        subst h
        obtain ⟨content, date, hsource, htarget, htargetFile, rfl⟩ := rename_eq_ok hrename
        rw [hsame.home] at hsource htarget htargetFile ⊢
        rw [entryAt_put (ne_nil_of_not_directory hfile), if_pos rfl] at hsource
        cases hsource
        have htargetFile' := (hsame.directory _).not.1 htargetFile
        refine ⟨⟨hbeside, hfile, hsame.symm.resolve_eq_ok htarget, htargetFile'⟩, ?_⟩
        -- moving the file away undoes the writing of it
        rw [drop_put, replaced]
  · rintro ⟨h, rfl⟩
    have hsame := sameDirectories_put h.beside_file (.text text) t.now
    have hwrite : t.writeText beside text =
        .ok (t.put (Path.place t.home beside) (.file (.text text) t.now)) := by
      rw [writeText, h.resolve_beside, ok_bind]
      split
      · next hentry => exact absurd hentry h.beside_file
      · rfl
    have hrename : (t.put (Path.place t.home beside) (.file (.text text) t.now)).rename
        beside target =
          .ok (t.replaced (Path.place t.home beside) (Path.place t.home target) text) := by
      rw [rename, hsame.resolve_eq_ok h.resolve_beside, ok_bind,
        entryAt_put (ne_nil_of_not_directory h.beside_file), if_pos rfl]
      simp only [hsame.resolve_eq_ok h.resolve_target, ok_bind]
      split
      · next hentry => exact absurd ((hsame.directory _).1 hentry) h.target_file
      · rw [drop_put]
        rfl
    rw [replaceText, hwrite]
    simp only [hrename]

theorem sameDirectories_replaceText (h : t.replaceText beside target text = (.ok (), t')) :
    SameDirectories t t' := by
  obtain ⟨hcan, rfl⟩ := replaceText_eq_ok_iff.1 h
  have hnone : FileTree.entry? (t.drop (Path.place t.home beside)) (Path.place t.home target) ≠
      some .directory := by
    rw [entryAt_drop (ne_nil_of_not_directory hcan.beside_file)]
    split_ifs
    · simp
    · exact hcan.target_file
  refine ⟨rfl, rfl, fun p => ((sameDirectories_put hnone (.text text) t.now).directory p).trans ?_⟩
  rw [entryAt_drop (ne_nil_of_not_directory hcan.beside_file)]
  split_ifs with hp
  · subst hp
    exact iff_of_false (by simp) hcan.beside_file
  · rfl

theorem replaced_again (t : FileTree) (p q : Place) (text : String) :
    (t.replaced p q text).replaced p q text = t.replaced p q text := by
  have hentries :
      ((((t.entries.erase p).insert q (.file (.text text) t.now)).erase p).insert q
        (.file (.text text) t.now)) = (t.entries.erase p).insert q (.file (.text text) t.now) := by
    refine Std.ExtTreeMap.ext_getElem? fun r => ?_
    simp only [Std.ExtTreeMap.getElem?_insert, Std.ExtTreeMap.getElem?_erase]
    split_ifs <;> rfl
  simp only [replaced, drop, put, hentries]

/-- **A replacement that is made again changes nothing.** -/
theorem replaceText_again (h : t.replaceText beside target text = (.ok (), t')) :
    t'.replaceText beside target text = (.ok (), t') := by
  have hsame := sameDirectories_replaceText h
  obtain ⟨hcan, rfl⟩ := replaceText_eq_ok_iff.1 h
  refine replaceText_eq_ok_iff.2 ⟨hcan.congr hsame, ?_⟩
  exact (replaced_again t _ _ text).symm

/-- Two replacements have no target in common, and neither target is used on the way. -/
structure Apart (home : Place) (beside target beside' target' : String) : Prop where
  targets : Path.place home target ≠ Path.place home target'
  left : Path.place home beside ≠ Path.place home target'
  right : Path.place home beside' ≠ Path.place home target

theorem replaced_swap {p q p' q' : Place} (hq : q ≠ q') (hp : p ≠ q') (hp' : p' ≠ q)
    (text text' : String) :
    (t.replaced p q text).replaced p' q' text' = (t.replaced p' q' text').replaced p q text := by
  have hentries :
      ((((t.entries.erase p).insert q (.file (.text text) t.now)).erase p').insert q'
        (.file (.text text') t.now)) =
      (((t.entries.erase p').insert q' (.file (.text text') t.now)).erase p).insert q
        (.file (.text text) t.now) := by
    refine Std.ExtTreeMap.ext_getElem? fun r => ?_
    simp only [Std.ExtTreeMap.getElem?_insert, Std.ExtTreeMap.getElem?_erase,
      Std.LawfulEqCmp.compare_eq_iff_eq]
    split_ifs <;> simp_all
  simp only [replaced, drop, put, hentries]

/-- **Replacements of different files can be made in either order.** -/
theorem replaceText_swap (hapart : Apart t.home beside target beside' target')
    (h : t.replaceText beside target text = (.ok (), t₁))
    (h' : t₁.replaceText beside' target' text' = (.ok (), t₂)) :
    ∃ t₁', t.replaceText beside' target' text' = (.ok (), t₁') ∧
      t₁'.replaceText beside target text = (.ok (), t₂) := by
  have hsame := sameDirectories_replaceText h
  obtain ⟨hcan, rfl⟩ := replaceText_eq_ok_iff.1 h
  obtain ⟨hcan', rfl⟩ := replaceText_eq_ok_iff.1 h'
  -- what the second replacement needs was there before the first one, and the other way round
  have hfirst : t.replaceText beside' target' text' = (.ok (), _) :=
    replaceText_eq_ok_iff.2 ⟨hcan'.congr hsame.symm, rfl⟩
  refine ⟨_, hfirst, replaceText_eq_ok_iff.2
    ⟨hcan.congr (sameDirectories_replaceText hfirst), ?_⟩⟩
  exact replaced_swap hapart.targets hapart.left hapart.right text text'

theorem SameDirectories.stat_directory (h : SameDirectories t t') {path : String}
    (hpath : t.stat path = .ok .directory) : t'.stat path = .ok .directory := by
  obtain ⟨p, hp, hentry⟩ := stat_eq_ok_iff.1 hpath
  exact stat_eq_ok_iff.2 ⟨p, h.resolve_eq_ok hp, (h.directory p).2 hentry⟩

theorem replaceTextBelow_eq_ok_iff :
    t.replaceTextBelow dir beside target text = (.ok (), t') ↔
      ∃ t₀, t.createDirectories dir = (.ok (), t₀) ∧
        t₀.replaceText beside target text = (.ok (), t') := by
  rw [replaceTextBelow]
  rcases t.createDirectories dir with ⟨r, t₀⟩
  cases r with
  | error e => simp
  | ok u => simp

/-- A replacement below a directory finds the directory when it is made again. -/
theorem replaceTextBelow_again (h : t.replaceTextBelow dir beside target text = (.ok (), t')) :
    t'.replaceTextBelow dir beside target text = (.ok (), t') := by
  obtain ⟨t₀, hcreate, hreplace⟩ := replaceTextBelow_eq_ok_iff.1 h
  refine replaceTextBelow_eq_ok_iff.2 ⟨t', ?_, replaceText_again hreplace⟩
  cases hdir : dir.isEmpty with
  | true => rw [createDirectories, createAll, if_pos hdir]
  | false =>
    have hstat := stat_of_createDirectories hcreate hdir
    exact createDirectories_of_directory
      ((sameDirectories_replaceText hreplace).stat_directory hstat)

/-- **Replacements below one directory can be made in either order**, each of which makes the
directory if it is missing: the first one makes it, and the second one finds it there. -/
theorem replaceTextBelow_swap {name name' : String} (hslash : '/' ∉ name.toList)
    (hslash' : '/' ∉ name'.toList)
    (hapart : Apart t.home beside (Path.join dir name) beside' (Path.join dir name'))
    (h : t.replaceTextBelow dir beside (Path.join dir name) text = (.ok (), t₁))
    (h' : t₁.replaceTextBelow dir beside' (Path.join dir name') text' = (.ok (), t₂)) :
    ∃ t₁', t.replaceTextBelow dir beside' (Path.join dir name') text' = (.ok (), t₁') ∧
      t₁'.replaceTextBelow dir beside (Path.join dir name) text = (.ok (), t₂) := by
  -- what a replacement leaves has the directory
  have hmade : ∀ {t t' : FileTree} {name beside text : String}, '/' ∉ name.toList →
      t.replaceText beside (Path.join dir name) text = (.ok (), t') →
      t'.createDirectories dir = (.ok (), t') := by
    intro t t' name beside text hslash h
    have hsame := sameDirectories_replaceText h
    have hcan := (replaceText_eq_ok_iff.1 h).1
    exact createDirectories_of_resolve_join hslash (hsame.resolve_eq_ok hcan.resolve_target)
  obtain ⟨t₀, hcreate, hreplace⟩ := replaceTextBelow_eq_ok_iff.1 h
  obtain ⟨t₁', hcreate', hreplace'⟩ := replaceTextBelow_eq_ok_iff.1 h'
  rw [hmade hslash hreplace] at hcreate'
  obtain rfl := (Prod.mk.inj hcreate').2
  have hhome : t₀.home = t.home := by
    have hgrown := grown_createDirectories t dir
    rw [hcreate] at hgrown
    exact hgrown.home
  rw [← hhome] at hapart
  obtain ⟨t₁', hfirst, hsecond⟩ := replaceText_swap hapart hreplace hreplace'
  exact ⟨t₁', replaceTextBelow_eq_ok_iff.2 ⟨t₀, hcreate, hfirst⟩,
    replaceTextBelow_eq_ok_iff.2 ⟨t₁', hmade hslash' hfirst, hsecond⟩⟩

end ContentBlocking.FileTree
