import ContentBlocking.Proofs.Disk.Directory
import Mathlib.Data.Set.Insert

/-!
# Writes that are all or nothing

A text is first written to a file beside its target and then moved to it.  Whichever of the steps
fails, what the target held stays (`FileTree.stat_replaceText_error`), since only the last step
touches it.  Together with the directories that are made for the target before, such an attempt is
`FileTree.AllOrNothing`.

One thing can go amiss: a path may lead out of a directory again that has to be made for it.  Then
the target itself can be one of the new directories, or the new directories open the way to what was
at its place before.
-/

namespace ContentBlocking.FileTree

variable {made : Set Place} {beside target text : String} {t t₁ t' : FileTree} {e : Entry}

/-! ### Entries -/

theorem Confined.stat_eq_ok {written : Set Place} (h : Confined made written t t') {path : String}
    (hp : Path.place t.home path ∉ written) (hstat : t.stat path = .ok e) :
    t'.stat path = .ok e := by
  obtain ⟨p, hresolve, hentry⟩ := stat_eq_ok_iff.1 hstat
  rw [← eq_place_of_resolve hresolve] at hp
  exact stat_eq_ok_iff.2 ⟨p, h.resolve_eq_ok hresolve, h.kept hp hentry⟩

/-! ### Removals -/

theorem stat_of_removeFile (h : t.removeFile target = .ok t') :
    t'.stat target = .error .notFound := by
  have hconfined := confined_removeFile h
  have hnone := entryAt_removeFile h
  rw [removeFile] at h
  obtain ⟨p, hp, -⟩ := bind_eq_ok.1 h
  obtain rfl := eq_place_of_resolve hp
  exact stat_eq_notFound_iff.2 (.inr ⟨_, hconfined.resolve_eq_ok hp, hnone⟩)

/-- Nothing to remove is nothing to find. -/
theorem stat_of_removeFile_notFound (h : t.removeFile target = .error .notFound) :
    t.stat target = .error .notFound := by
  rw [removeFile] at h
  cases hp : t.resolve target with
  | error err =>
    rw [hp] at h
    have herr : err = .notFound := by simpa [bind, Except.bind] using h
    exact stat_eq_notFound_iff.2 (.inl (herr ▸ hp))
  | ok p =>
    rw [hp, ok_bind] at h
    refine stat_eq_notFound_iff.2 (.inr ⟨p, hp, ?_⟩)
    cases he : t.entry? p with
    | none => rfl
    | some e => cases e <;> simp [he, throw, throwThe, MonadExceptOf.throw, pure, Except.pure] at h

/-! ### Replacements -/

/-- A replacement that fails either changed nothing or left its text in the file beside the target. -/
theorem replaceText_eq_error {err : IoError}
    (h : t.replaceText beside target text = (.error err, t')) :
    t' = t ∨ t.writeText beside text = .ok t' ∧ t'.rename beside target = .error err := by
  rw [replaceText] at h
  cases hwrite : t.writeText beside text with
  | error e' =>
    simp only [hwrite, Prod.mk.injEq] at h
    exact .inl h.2.symm
  | ok t₁ =>
    simp only [hwrite] at h
    cases hrename : t₁.rename beside target with
    | error e' =>
      simp only [hrename, Prod.mk.injEq, Except.error.injEq] at h
      obtain ⟨rfl, rfl⟩ := h
      exact .inr ⟨rfl, hrename⟩
    | ok t₂ => simp [hrename] at h

/-- A text that is written is the file at its path, and nothing else changes. -/
theorem entry_writeText (h : t.writeText beside text = .ok t') :
    t.resolve beside = .ok (Path.place t.home beside) ∧
      Confined ∅ {Path.place t.home beside} t t' ∧
      t'.entry? (Path.place t.home beside) = some (.file (.text text) t.now) := by
  obtain ⟨hresolve, hentry, rfl⟩ := writeText_eq_ok h
  refine ⟨hresolve, confined_put_file hentry _ _, ?_⟩
  rw [entryAt_put (ne_nil_of_not_directory hentry), if_pos rfl]

/-- A file can be moved to its own place. -/
theorem exists_rename_of_place_eq {content : Content} {date : Date}
    (hplace : Path.place t.home beside = Path.place t.home target)
    (hbeside : t.stat beside = .ok (.file content date)) (htarget : t.stat target = .ok e) :
    ∃ t', t.rename beside target = .ok t' := by
  obtain ⟨hp, hentry⟩ := resolve_of_stat hbeside
  obtain ⟨hq, -⟩ := resolve_of_stat htarget
  rw [rename, hp, ok_bind, hentry]
  simp only
  rw [hq, ok_bind, ← hplace, hentry]
  exact ⟨_, rfl⟩

/-- **A replacement that fails leaves the target alone.** -/
theorem stat_replaceText_error {err : IoError}
    (h : t.replaceText beside target text = (.error err, t')) :
    t'.stat target = .ok e ↔ t.stat target = .ok e := by
  obtain rfl | ⟨hwrite, hrename⟩ := replaceText_eq_error h
  · rfl
  · obtain ⟨hresolve, hconfined, hfile⟩ := entry_writeText hwrite
    have hhome : t'.home = t.home := hconfined.home
    by_cases hplace : Path.place t.home beside = Path.place t.home target
    · -- the new text is at the target already, where it could have been moved to itself
      have hbeside : t'.stat beside = .ok (.file (.text text) t.now) :=
        stat_eq_ok_iff.2 ⟨_, hconfined.resolve_eq_ok hresolve, hfile⟩
      have hnone : ∀ e, t'.stat target ≠ .ok e := by
        intro e htarget
        rw [← hhome] at hplace
        obtain ⟨t'', ht''⟩ := exists_rename_of_place_eq hplace hbeside htarget
        rw [hrename] at ht''
        cases ht''
      refine iff_of_false (hnone e) fun htarget => ?_
      obtain ⟨hq, -⟩ := resolve_of_stat htarget
      rw [hplace] at hfile
      exact hnone _ (stat_eq_ok_iff.2 ⟨_, hconfined.resolve_eq_ok hq, hfile⟩)
    · have hne : Path.place t.home target ∉ ({Path.place t.home beside} : Set Place) :=
        fun heq => hplace (Set.mem_singleton_iff.1 heq).symm
      -- the file beside the target is no directory, so no more paths can be followed than before
      have hdirectories : ∀ p, t'.entry? p = some .directory → t.entry? p = some .directory := by
        intro p hp
        have hne' : p ∉ ({Path.place t.home beside} : Set Place) := by
          intro heq
          rw [Set.mem_singleton_iff.1 heq, hfile] at hp
          cases hp
        rwa [hconfined.entry_eq (Set.notMem_empty _) hne'] at hp
      refine ⟨fun htarget => ?_, hconfined.stat_eq_ok hne⟩
      obtain ⟨q, hq, hqentry⟩ := stat_eq_ok_iff.1 htarget
      have hq' : t.resolve target = .ok q :=
        resolve_eq_ok_of_directories hhome.symm hdirectories hq
      obtain rfl := eq_place_of_resolve hq'
      rw [hconfined.entry_eq (Set.notMem_empty _) hne] at hqentry
      exact stat_eq_ok_iff.2 ⟨_, hq', hqentry⟩

/-! ### Attempts -/

/-- An attempt to write to a path, which ended with the tree `t'`, was all or nothing: if it
succeeded, the tree is `Done`, and if it failed, the path holds what it held.  Apart from that,
directories were made and the file beside the target was written.

The exception is in `found`: on the way of the path were directories that had to be made for it, and
now the path leads to what was at its place before or to one of them. -/
structure AllOrNothing (made : Set Place) (beside target : String) (Done : FileTree → Prop)
    (succeeded : Prop) (t t' : FileTree) : Prop where
  done : succeeded → Done t'
  kept : ¬succeeded → ∀ e, t.stat target = .ok e → t'.stat target = .ok e
  found : ¬succeeded → ∀ e, t'.stat target = .ok e → t.stat target = .ok e ∨
    (∃ p ∈ made, IsNewDirectory t t' p) ∧
      (t.entry? (Path.place t.home target) = some e ∨
        Path.place t.home target ∈ made ∧ IsNewDirectory t t' (Path.place t.home target))
  elsewhere : ∀ p, p ≠ Path.place t.home beside → p ≠ Path.place t.home target →
    t'.entry? p = t.entry? p ∨ p ∈ made ∧ IsNewDirectory t t' p

theorem AllOrNothing.congr {Done : FileTree → Prop} {succeeded succeeded' : Prop}
    (h : AllOrNothing made beside target Done succeeded t t') (hiff : succeeded' ↔ succeeded) :
    AllOrNothing made beside target Done succeeded' t t' := by
  rwa [propext hiff]

/-- What was found at a path after directories were made was found before, or one of them is new. -/
theorem Grown.stat_eq_ok (h : Grown made t t₁) (hstat : t₁.stat target = .ok e) :
    t.stat target = .ok e ∨
      (∃ p ∈ made, IsNewDirectory t t₁ p) ∧
        (t.entry? (Path.place t.home target) = some e ∨
          Path.place t.home target ∈ made ∧ IsNewDirectory t t₁ (Path.place t.home target)) := by
  by_cases hnew : ∃ p ∈ made, IsNewDirectory t t₁ p
  · refine .inr ⟨hnew, ?_⟩
    obtain ⟨-, hentry⟩ := resolve_of_stat hstat
    rw [h.home] at hentry
    exact (h.entry _).imp_left fun heq => heq.symm.trans hentry
  · have hsame : ∀ p, t₁.entry? p = t.entry? p := fun p =>
      (h.entry p).resolve_right fun hp => hnew ⟨p, hp.1, hp.2⟩
    obtain ⟨q, hq, hentry⟩ := stat_eq_ok_iff.1 hstat
    have hq' : t.resolve target = .ok q :=
      resolve_eq_ok_of_directories h.home.symm (fun p hp => (hsame p).symm.trans hp) hq
    exact .inl (stat_eq_ok_iff.2 ⟨q, hq', (hsame q).symm.trans hentry⟩)

/-- An attempt that failed when its directories were made. -/
theorem Grown.allOrNothing (h : Grown made t t₁) (beside target : String) (Done : FileTree → Prop)
    {succeeded : Prop} (hfailed : ¬succeeded) :
    AllOrNothing made beside target Done succeeded t t₁ where
  done hsucceeded := absurd hsucceeded hfailed
  kept _ _ hstat := h.confined.stat_eq_ok (Set.notMem_empty _) hstat
  found _ _ hstat := h.stat_eq_ok hstat
  elsewhere p _ _ := h.entry p

/-- **A replacement is all or nothing**, after directories were made for it. -/
theorem Grown.allOrNothing_replaceText (h : Grown made t t₁) (beside target text : String) :
    AllOrNothing made beside target (fun t' => t'.readText target = .ok text)
      ((t₁.replaceText beside target text).1 = .ok ()) t (t₁.replaceText beside target text).2 := by
  have hconfined := confined_replaceText t₁ beside target text
  generalize hr : t₁.replaceText beside target text = r at hconfined ⊢
  obtain ⟨r, t'⟩ := r
  -- a replacement removes no directory
  have hnew : ∀ {p}, IsNewDirectory t t₁ p → IsNewDirectory t t' p :=
    fun hp => ⟨hp.1, hconfined.directory hp.2⟩
  refine ⟨?_, ?_, ?_, ?_⟩
  · rintro rfl
    exact readText_replaceText hr
  · intro hfailed e hstat
    cases r with
    | ok u => exact absurd rfl hfailed
    | error err =>
      have hstat₁ := h.confined.stat_eq_ok (Set.notMem_empty _) hstat
      exact (stat_replaceText_error hr).2 hstat₁
  · intro hfailed e hstat
    cases r with
    | ok u => exact absurd rfl hfailed
    | error err =>
      have hstat₁ : t₁.stat target = .ok e := (stat_replaceText_error hr).1 hstat
      refine (h.stat_eq_ok hstat₁).imp_right ?_
      rintro ⟨⟨p, hp, hpnew⟩, hheld⟩
      exact ⟨⟨p, hp, hnew hpnew⟩, hheld.imp_right fun hplace => ⟨hplace.1, hnew hplace.2⟩⟩
  · intro p hbeside htarget
    have hwritten : p ∉ writtenBy t₁.home beside target := by
      rw [h.home]
      rintro (hp | hp)
      · exact hbeside hp
      · exact htarget hp
    rw [hconfined.entry_eq (Set.notMem_empty _) hwritten]
    exact (h.entry p).imp_right fun hp => ⟨hp.1, hnew hp.2⟩

/-- The tree with a text that replaces a file, for which a directory is made if it is missing. -/
def replaceTextBelow (t : FileTree) (dir beside target text : String) :
    Except IoError Unit × FileTree :=
  match t.createDirectories dir with
  | (.error e, t) => (.error e, t)
  | (.ok (), t) => t.replaceText beside target text

theorem confined_replaceTextBelow (t : FileTree) (dir beside target text : String) :
    Confined (Path.way t.home dir) (writtenBy t.home beside target) t
      (t.replaceTextBelow dir beside target text).2 := by
  have hmake := confined_createDirectories t dir
  rw [replaceTextBelow]
  generalize t.createDirectories dir = created at hmake ⊢
  obtain ⟨r, t₁⟩ := created
  cases r with
  | error err => exact hmake.mono (Set.Subset.refl _) (Set.empty_subset _)
  | ok u =>
    have hwrite := confined_replaceText t₁ beside target text
    rw [hmake.home] at hwrite
    exact (hmake.mono (Set.Subset.refl _) (Set.empty_subset _)).trans
      (hwrite.mono (Set.empty_subset _) (Set.Subset.refl _))

theorem allOrNothing_replaceTextBelow (t : FileTree) (dir beside target text : String) :
    AllOrNothing (Path.way t.home dir) beside target (fun t' => t'.readText target = .ok text)
      ((t.replaceTextBelow dir beside target text).1 = .ok ()) t
      (t.replaceTextBelow dir beside target text).2 := by
  have hgrown := grown_createDirectories t dir
  rw [replaceTextBelow]
  generalize t.createDirectories dir = created at hgrown ⊢
  obtain ⟨r, t₁⟩ := created
  cases r with
  | error err => exact hgrown.allOrNothing _ _ _ (by simp)
  | ok u => exact hgrown.allOrNothing_replaceText beside target text

end ContentBlocking.FileTree
