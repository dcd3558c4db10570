import ContentBlocking.Proofs.Disk.Directory

/-!
# Directories that can be made in a fuller tree

A directory that can be made with those above it can also be made where some of them are there
already, as long as no file is in the place of one of them
(`FileTree.exists_createDirectories_of_includes`).
-/

namespace ContentBlocking.FileTree

variable {t t' t₁ t₁' : FileTree} {path : String} {fuel : ℕ}

/-- A tree has all directories of the tree `t`. -/
structure Includes (t t' : FileTree) : Prop where
  home : t'.home = t.home
  directory : ∀ {p : Place}, t.entry? p = some .directory → t'.entry? p = some .directory

/-- No file of the tree `t'` is in the place of a directory of the tree `t`. -/
def Unblocked (t t' : FileTree) : Prop :=
  ∀ {p : Place}, t.entry? p = some .directory →
    t'.entry? p = none ∨ t'.entry? p = some .directory

namespace Includes

theorem resolve_eq_ok (h : Includes t t') {p : Place} (hp : t.resolve path = .ok p) :
    t'.resolve path = .ok p :=
  resolve_eq_ok_of_directories h.home (fun _ => h.directory) hp

theorem stat_directory (h : Includes t t') (hstat : t.stat path = .ok .directory) :
    t'.stat path = .ok .directory := by
  obtain ⟨p, hp, hentry⟩ := stat_eq_ok_iff.1 hstat
  exact stat_eq_ok_iff.2 ⟨p, h.resolve_eq_ok hp, h.directory hentry⟩

end Includes

/-! ### The way to a directory -/

theorem follow_of_unblocked (h : Unblocked t t') {p q : Place} {parts : List (List Char)}
    (hq : t.follow p parts = .ok q) :
    t'.follow p parts = .ok q ∨ t'.follow p parts = .error .notFound := by
  induction parts generalizing p with
  | nil => exact .inl hq
  | cons part parts ih =>
    obtain ⟨hp, hpart, hq⟩ := follow_cons_eq_ok_iff.1 hq
    rcases h hp with hnone | hdirectory
    · right
      rw [follow, hnone]
    · rw [follow_cons_of_directory hdirectory hpart]
      exact ih hq

theorem resolve_of_unblocked (hhome : t'.home = t.home) (h : Unblocked t t') {p : Place}
    (hp : t.resolve path = .ok p) :
    t'.resolve path = .ok p ∨ t'.resolve path = .error .notFound := by
  rw [resolve] at hp ⊢
  split_ifs at hp ⊢ with hempty hnul hlong hslash
  · exact follow_of_unblocked h hp
  · rw [hhome]
    exact follow_of_unblocked h hp

/-- The way to a directory is through directories. -/
theorem directory_of_mem_way (h : t.stat path = .ok .directory) {p : Place}
    (hp : p ∈ Path.way t.home path) : t.entry? p = some .directory := by
  obtain ⟨q, hq, hentry⟩ := stat_eq_ok_iff.1 h
  rcases directory_of_mem_placeWay (follow_of_resolve hq) hp with rfl | hdirectory
  · exact hentry
  · exact hdirectory

/-! ### Making what is missing -/

/-- A directory that another tree has is there, or can be made, or one above it is missing. -/
theorem createDirectory_of_unblocked (hhome : t'.home = t.home) (h : Unblocked t t')
    (hstat : t.stat path = .ok .directory) :
    t'.stat path = .ok .directory ∨ (∃ t'', t'.createDirectory path = .ok t'') ∨
      t'.resolve (Path.withoutSlashes path) = .error .notFound := by
  have hshort := short_of_stat hstat
  obtain ⟨q, hq, hentry⟩ := stat_eq_ok_iff.1 (stat_withoutSlashes hstat)
  rcases resolve_of_unblocked hhome h hq with hq' | hq'
  · rcases h hentry with hnone | hdirectory
    · refine .inr (.inl ?_)
      rw [createDirectory_of_short hshort, hq', ok_bind, hnone]
      exact ⟨_, rfl⟩
    · exact .inl (directory_of_withoutSlashes hshort (stat_eq_ok_iff.2 ⟨q, hq', hdirectory⟩))
  · exact .inr (.inr hq')

/-- What was there before is there after a directory was made or found. -/
theorem Settles.directory (h : t.Settles path t₁) {p : Place} (hp : t.entry? p = some .directory) :
    t₁.entry? p = some .directory := by
  rcases h with hcreate | ⟨-, rfl⟩
  · exact (grown_createDirectory hcreate).confined.directory hp
  · exact hp

/-- A directory is made or found only where its path leads. -/
theorem Settles.exists_resolve (h : t.Settles path t₁) :
    ∃ p, t.resolve (Path.withoutSlashes path) = .ok p := by
  rcases h with hcreate | ⟨hstat, -⟩
  · exact ⟨_, (createDirectory_eq_ok hcreate).2.1⟩
  · exact ⟨_, (resolve_of_stat (stat_withoutSlashes hstat)).1⟩

/-- A directory that is made or found is made or found in a fuller tree. -/
theorem Settles.of_includes (h : t.Settles path t₁) (hinc : Includes t t')
    (hhome : t'.home = t₁.home) (hfree : Unblocked t₁ t') : ∃ t₁', t'.Settles path t₁' := by
  rcases createDirectory_of_unblocked hhome hfree h.stat with hstat | ⟨t'', hcreate⟩ | hresolve
  · exact ⟨t', .inr ⟨hstat, rfl⟩⟩
  · exact ⟨t'', .inl hcreate⟩
  · obtain ⟨p, hp⟩ := h.exists_resolve
    rw [hinc.resolve_eq_ok hp] at hresolve
    cases hresolve

/-- Making the same directory in both trees leaves all directories of the one in the other. -/
theorem Includes.of_createAll (hinc : Includes t t') (h : t.createAll path fuel = (.ok (), t₁))
    (h' : t'.createAll path fuel = (.ok (), t₁')) : Includes t₁ t₁' := by
  have hgrown := grown_createAll t path fuel
  rw [h] at hgrown
  have hgrown' := grown_createAll t' path fuel
  rw [h'] at hgrown'
  have hhome : t₁'.home = t₁.home := by rw [hgrown'.home, hinc.home, hgrown.home]
  refine ⟨hhome, fun {p} hp => ?_⟩
  have hold : t.entry? p = some .directory → t₁'.entry? p = some .directory :=
    fun hp => hgrown'.confined.directory (hinc.directory hp)
  rcases hgrown.entry p with heq | ⟨hway, -, -⟩
  · exact hold (heq.symm.trans hp)
  · -- the new directories are on the way to the one that was made
    cases fuel with
    | zero =>
      obtain rfl := (Prod.mk.inj h).2
      exact hold hp
    | succ fuel =>
      cases hempty : path.isEmpty with
      | true =>
        rw [createAll, if_pos hempty] at h
        obtain rfl := (Prod.mk.inj h).2
        exact hold hp
      | false =>
        refine directory_of_mem_way (stat_of_createAll h' hempty) ?_
        rwa [hhome, hgrown.home]

/-- **A directory that can be made can be made in a fuller tree**, unless a file is in the way. -/
theorem exists_createAll_of_includes (hinc : Includes t t')
    (h : t.createAll path fuel = (.ok (), t₁)) (hfree : Unblocked t₁ t') :
    ∃ t₁', t'.createAll path fuel = (.ok (), t₁') := by
  induction fuel generalizing path t₁ with
  | zero => exact ⟨t', rfl⟩
  | succ fuel ih =>
    cases hempty : path.isEmpty with
    | true =>
      rw [createAll, if_pos hempty]
      exact ⟨t', rfl⟩
    | false =>
      have hgrown := grown_createAll t path (fuel + 1)
      rw [h] at hgrown
      have hhome : t'.home = t₁.home := hinc.home.trans hgrown.home.symm
      have hstat := stat_of_createAll h hempty
      simp only [createAll_eq_ok_iff hempty] at h ⊢
      rcases h with hsettles | ⟨-, parent, t₂, hparent, habove, hsettles⟩
      · obtain ⟨t₁', hsettles'⟩ := hsettles.of_includes hinc hhome hfree
        exact ⟨t₁', .inl hsettles'⟩
      · rcases createDirectory_of_unblocked hhome hfree hstat with
          hstat' | ⟨t'', hcreate⟩ | hresolve
        · exact ⟨t', .inl (.inr ⟨hstat', rfl⟩)⟩
        · exact ⟨t'', .inl (.inl hcreate)⟩
        · -- a directory above it is missing in both trees
          obtain ⟨t₂', habove'⟩ := ih habove fun hp => hfree (hsettles.directory hp)
          have hgrown' := grown_createAll t' parent fuel
          rw [habove'] at hgrown'
          obtain ⟨t₁', hsettles'⟩ := hsettles.of_includes (hinc.of_createAll habove habove')
            (hgrown'.home.trans hhome) fun {p} hp => by
              rcases hgrown'.entry p with heq | ⟨-, -, hdirectory⟩
              · rw [heq]
                exact hfree hp
              · exact .inr hdirectory
          have hcreate : t'.createDirectory path = .error .notFound := by
            rw [createDirectory_of_short (short_of_stat hstat), hresolve]
            rfl
          exact ⟨t₁', .inr ⟨hcreate, parent, t₂', hparent, habove', hsettles'⟩⟩

/-- **A directory that can be made can be made where more directories are there**, if no file is
in the place of one that is made. -/
theorem exists_createDirectories_of_includes (hinc : Includes t t')
    (h : t.createDirectories path = (.ok (), t₁)) (hfree : Unblocked t₁ t') :
    ∃ t₁', t'.createDirectories path = (.ok (), t₁') :=
  exists_createAll_of_includes hinc h hfree

end ContentBlocking.FileTree
