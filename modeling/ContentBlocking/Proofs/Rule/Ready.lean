import ContentBlocking.Proofs.Disk.Commute
import ContentBlocking.Proofs.Disk.Making
import ContentBlocking.Proofs.Rule.Memory
import ContentBlocking.Proofs.Rule.Removal

/-!
# Stores that are ready to be filled

A store is `RuleStore.Ready` if its directory is there or can be made, and has no subdirectories.
What becomes of a list that is compiled into such a store is a matter of the list and of the path of
the directory alone (`RuleStore.Ready.compile`), and the store is ready for the next list then.
-/

namespace ContentBlocking.RuleStore

variable {s s' : RuleStore} {t t' : FileTree} {dir id source : String} {rules : List Rule}

/-- Lists can be put into a store: if it has a directory, that is there or can be made, and nothing
in it is a directory. -/
structure Ready (s : RuleStore) (t : FileTree) : Prop where
  makes : ∀ dir, s.dir? = some dir →
    ∃ t', t.createDirectories dir = (.ok (), t') ∧ t'.stat dir = .ok .directory
  tidy : s.Tidy t.home
  listable : s.Listable t
  files : ∀ p ∈ s.inside t.home, t.entry? p ≠ some .directory

theorem rooted_of_directory (h : t.stat dir = .ok .directory) : (directory dir).Rooted t := by
  intro dir' hdir
  obtain rfl := Option.some.inj hdir
  exact h

/-- A store is ready whose directory is there and has no subdirectories. -/
theorem Rooted.ready (h : s.Rooted t) (hplain : s.Plain t)
    (hfiles : ∀ p ∈ s.inside t.home, t.entry? p ≠ some .directory) : s.Ready t where
  makes dir hdir := ⟨t, FileTree.createDirectories_of_directory (h dir hdir), h dir hdir⟩
  tidy p hp hway := by
    cases s with
    | directory dir => exact hfiles p hp (FileTree.directory_of_mem_way (h dir rfl) hway)
    | memory lists n => exact hp
  listable := h.listable hplain
  files := hfiles

/-- A store is ready whose directory is empty once it is made. -/
theorem ready_of_made (hmake : t.createDirectories dir = (.ok (), t'))
    (hempty : t'.list dir = .ok []) : (directory dir).Ready t := by
  obtain ⟨hresolve, hentry, hchildren⟩ := FileTree.list_eq_ok hempty
  have hstat : t'.stat dir = .ok .directory := FileTree.stat_eq_ok_iff.2 ⟨_, hresolve, hentry⟩
  have hgrown := FileTree.grown_createDirectories t dir
  rw [hmake] at hgrown
  have hhome : t'.home = t.home := hgrown.home
  have hnone' : ∀ name, t'.entry? (Path.place t.home dir ++ [name]) = none := by
    intro name
    by_contra hpresent
    rw [← hhome] at hpresent
    have hmem := FileTree.mem_children_iff.2 hpresent
    rw [← hchildren] at hmem
    cases hmem
  have hnone : ∀ name, t.entry? (Path.place t.home dir ++ [name]) = none := by
    intro name
    rcases hgrown.entry (Path.place t.home dir ++ [name]) with heq | ⟨-, hnone, -⟩
    · exact heq.symm.trans (hnone' name)
    · exact hnone
  refine ⟨fun _ hdir => ?_, ?_, .inr hnone, ?_⟩
  · obtain rfl := Option.some.inj hdir
    exact ⟨t', hmake, hstat⟩
  · rintro p ⟨name, rfl⟩ hway
    have hdirectory := FileTree.directory_of_mem_way hstat (by rw [hhome]; exact hway)
    rw [hnone'] at hdirectory
    cases hdirectory
  · rintro p ⟨name, rfl⟩ hdirectory
    rw [hnone] at hdirectory
    cases hdirectory

/-- A store that is ready can be listed. -/
theorem Ready.exists_identifiers (h : s.Ready t) : ∃ ids, s.identifiers t = .ok ids := by
  cases s with
  | directory dir =>
    obtain ⟨t', hmake, hstat⟩ := h.makes dir rfl
    have hempty : dir.isEmpty = false := FileTree.isEmpty_of_stat hstat
    rcases FileTree.of_createDirectories_eq_ok hmake hempty (FileTree.short_of_stat hstat) with
      hdirectory | hmissing
    · exact identifiersIn_of_list (FileTree.list_of_directory hdirectory)
    · rw [identifiers, identifiersIn, FileTree.list_of_notFound hmissing]
      exact ⟨[], rfl⟩
  | memory lists n => exact ⟨lists.keys, rfl⟩

/-- A store stays ready when something changes elsewhere, as long as its directory can be made. -/
theorem Ready.of_confined {made written : Set Place} (h : s.Ready t)
    (hconfined : FileTree.Confined made written t t') (hmade : ∀ p ∈ s.inside t.home, p ∉ made)
    (hwritten : ∀ p ∈ s.inside t.home, p ∉ written)
    (hmakes : ∀ dir, s.dir? = some dir →
      ∃ t'', t'.createDirectories dir = (.ok (), t'') ∧ t''.stat dir = .ok .directory) :
    s.Ready t' := by
  have hentry : ∀ p ∈ s.inside t.home, t'.entry? p = t.entry? p :=
    fun p hp => hconfined.entry_eq (hmade p hp) (hwritten p hp)
  refine ⟨hmakes, by rw [hconfined.home]; exact h.tidy, ?_, fun p hp => ?_⟩
  · cases s with
    | directory dir =>
      have hinside : ∀ name, t'.entry? (Path.place t.home dir ++ [name]) =
          t.entry? (Path.place t.home dir ++ [name]) := fun name => hentry _ ⟨name, rfl⟩
      rcases h.listable with ⟨names, hnames, hslash⟩ | hnone
      · refine .inl ⟨_, hconfined.list_eq_ok hnames, fun name hname => hslash name ?_⟩
        obtain ⟨-, -, rfl⟩ := FileTree.list_eq_ok hnames
        rw [FileTree.mem_children_iff, hinside] at hname
        exact FileTree.mem_children_iff.2 hname
      · right
        intro name
        rw [hconfined.home, hinside]
        exact hnone name
    | memory lists n => trivial
  · rw [hconfined.home] at hp
    rw [hentry p hp]
    exact h.files p hp

/-! ### Stores that can be emptied -/

/-- The directory has nothing but files, and the paths of those that are listed are not too long. -/
structure HasOnlyFiles (dir : String) (t : FileTree) : Prop where
  found : t.stat dir = .ok .directory
  real : RealNames dir t
  files : ∀ p ∈ insideOf t.home dir, t.entry? p ≠ some .directory
  short : ∀ ids, identifiersIn dir t = .ok ids →
    ∀ id ∈ ids, (filePath dir id).utf8ByteSize ≤ FileTree.maxPathLength

/-- A directory whose path leaves room for a name has no paths that are too long. -/
theorem hasOnlyFiles_of_children (hroom : FileTree.HasRoom dir)
    (hstat : t.stat dir = .ok .directory)
    (hnames : ∀ name ∈ t.children (Path.place t.home dir), FileTree.IsPart name ∧
      t.entry? (Path.place t.home dir ++ [name]) ≠ some .directory) : HasOnlyFiles dir t := by
  have hreal : RealNames dir t :=
    fun name hentry => (hnames name (FileTree.mem_children_iff.2 hentry)).1
  refine ⟨hstat, hreal, ?_, fun ids hids id hid => ?_⟩
  · rintro p ⟨name, rfl⟩ hdirectory
    have hmem := FileTree.mem_children_iff.2 (by rw [hdirectory]; exact Option.some_ne_none _)
    exact (hnames name hmem).2 hdirectory
  · exact hroom.join_short (isListed_of_mem hreal hids hid).isPart

theorem HasOnlyFiles.ready (h : HasOnlyFiles dir t) : (directory dir).Ready t := by
  refine (rooted_of_directory h.found).ready (fun dir' hdir name hentry => ?_) h.files
  obtain rfl := Option.some.inj hdir
  exact (h.real name hentry).noSlash

/-- Everything that such a directory lists can be removed. -/
theorem HasOnlyFiles.isRemovable {ids : List String} (h : HasOnlyFiles dir t)
    (hids : identifiersIn dir t = .ok ids) (hid : id ∈ ids) : isRemovable dir t id = true := by
  have hlisted := isListed_of_mem h.real hids hid
  obtain ⟨e, he⟩ := Option.ne_none_iff_exists'.1 hlisted.present
  rw [RuleStore.isRemovable, he]
  cases e with
  | directory => exact absurd he (h.files _ ⟨_, place_filePath hlisted.isId _ _⟩)
  | file content date => exact decide_eq_true (h.short ids hids id hid)

/-- The directory is there or can be made, and is empty then. -/
def MakesEmpty (dir : String) (t : FileTree) : Prop :=
  ∃ t', t.createDirectories dir = (.ok (), t') ∧ t'.list dir = .ok []

/-- The directory of a store, if it has one, has nothing but files, or is empty once it is made. -/
def Clearable (s : RuleStore) (t : FileTree) : Prop :=
  ∀ dir, s.dir? = some dir → HasOnlyFiles dir t ∨ MakesEmpty dir t

/-- Nothing is left by a removal that was not there before it. -/
theorem entry_of_remove {p : Place} {e : Entry}
    (h : FileTree.entry? (s.remove id t).2.2 p = some e) : t.entry? p = some e := by
  cases s with
  | directory dir =>
    rw [remove] at h
    rcases hremove : removeFrom dir id t with ⟨r, t'⟩
    rw [hremove] at h
    cases r with
    | error cause =>
      rw [removeFrom_error hremove] at h
      exact h
    | ok u =>
      obtain ⟨⟨content, date, hfile⟩, rfl⟩ := FileTree.removeFile_eq_ok (removeFrom_ok hremove)
      have hnil := FileTree.ne_nil_of_not_directory (t := t) (by rw [hfile]; simp)
      simp only [FileTree.entryAt_drop hnil] at h
      split_ifs at h
      exact h
  | memory lists n =>
    rw [remove] at h
    split_ifs at h
    · exact h
    · exact h

/-! ### Compilation -/

/-- The paths of the files of a list are not too long for the disk. -/
def fits (s : RuleStore) (id : String) : Bool :=
  match s.dir? with
  | some dir => decide ((besidePath dir id).utf8ByteSize ≤ FileTree.maxPathLength)
  | none => true

theorem fits_of_dir? (h : s'.dir? = s.dir?) (id : String) : s'.fits id = s.fits id := by
  rw [fits, fits, h]

theorem fits_directory_iff :
    (directory dir).fits id = true ↔ (besidePath dir id).utf8ByteSize ≤ FileTree.maxPathLength := by
  simp only [fits, dir?, decide_eq_true_eq]

theorem besidePath_eq_append (hid : ListName id) (dir : String) :
    besidePath dir id = filePath dir id ++ ".tmp" := by
  have hname : besideName id = id ++ "." ++ extension ++ ".tmp" := String.append_assoc.symm
  rw [besidePath_eq_join hid, ← String.toList_inj, String.toList_append, filePath,
    Path.toList_join (plainName_besideName hid).noSlash,
    Path.toList_join (plainName_fileName hid.toIsId).noSlash, List.append_assoc,
    ← String.toList_append, hname]

/-- What a compilation of a list with the outcome `o` leaves of a store. -/
structure Built (id : String) (o : Option (List Rule)) (s : RuleStore) (t : FileTree)
    (s' : RuleStore) (t' : FileTree) : Prop where
  touches : Touches {id} s t s' t'
  ready : s'.Ready t'
  holds : ∀ rules, o = some rules → s'.Holds t' id rules
  lacks : o = none → s.Lacks t id → s'.Lacks t' id

theorem ready_of_memory (h : s.dir? = none) (t : FileTree) : s.Ready t where
  makes dir hdir := by
    rw [h] at hdir
    cases hdir
  tidy := tidy_of_memory h t.home
  listable := listable_of_memory h t
  files p hp := by
    rw [inside, h] at hp
    exact absurd hp (Set.notMem_empty p)

/-- The directory of a store that is ready is made without subdirectories. -/
theorem Ready.exists_made (h : (directory dir).Ready t) :
    ∃ t', t.createDirectories dir = (.ok (), t') ∧ FileTree.Grown (Path.way t.home dir) t t' ∧
      t'.stat dir = .ok .directory ∧ ∀ p ∈ insideOf t'.home dir, t'.entry? p ≠ some .directory := by
  obtain ⟨t', hmake, hstat⟩ := h.makes dir rfl
  have hgrown := FileTree.grown_createDirectories t dir
  rw [hmake] at hgrown
  refine ⟨t', hmake, hgrown, hstat, fun p hp => ?_⟩
  -- the new directories are on the way to this one, so they are not in it
  rw [hgrown.home] at hp
  rw [hgrown.confined.entry_eq (h.tidy p hp) (Set.notMem_empty p)]
  exact h.files p hp

section Directory

variable (hid : FileId id) (hname : ListName id)
include hid hname

/-- A list can be put into a directory without subdirectories, if its paths are not too long. -/
theorem canReplace_of_directory (hstat : t.stat dir = .ok .directory)
    (hfiles : ∀ p ∈ insideOf t.home dir, t.entry? p ≠ some .directory)
    (hshort : (besidePath dir id).utf8ByteSize ≤ FileTree.maxPathLength) :
    t.CanReplace (besidePath dir id) (filePath dir id) := by
  have hshort' : (filePath dir id).utf8ByteSize ≤ FileTree.maxPathLength := by
    rw [besidePath_eq_append hname, String.utf8ByteSize_append] at hshort
    omega
  have hbeside := FileTree.resolve_join_of_directory hstat hid.isPart_besideName
    (plainName_besideName hname)
  rw [← besidePath_eq_join hname, if_neg (Nat.not_lt.2 hshort), ← place_besidePath hname] at hbeside
  have htarget := FileTree.resolve_join_of_directory hstat hid.isPart_fileName
    (plainName_fileName hid.toIsId)
  rw [← filePath, if_neg (Nat.not_lt.2 hshort'), ← place_filePath hid.toIsId] at htarget
  exact ⟨hbeside, hfiles _ ⟨_, place_besidePath hname _ _⟩, htarget,
    hfiles _ ⟨_, place_filePath hid.toIsId _ _⟩⟩

theorem replaceText_of_long (hstat : t.stat dir = .ok .directory)
    (hlong : FileTree.maxPathLength < (besidePath dir id).utf8ByteSize) (text : String) :
    t.replaceText (besidePath dir id) (filePath dir id) text = (.error .nameTooLong, t) := by
  have hbeside := FileTree.resolve_join_of_directory hstat hid.isPart_besideName
    (plainName_besideName hname)
  rw [← besidePath_eq_join hname, if_pos hlong] at hbeside
  have hwrite : t.writeText (besidePath dir id) text = .error .nameTooLong := by
    rw [FileTree.writeText, hbeside]
    rfl
  rw [FileTree.replaceText, hwrite]

/-- A valid list is put into a directory if its paths are not too long. -/
theorem Ready.compile_of_fits (h : (directory dir).Ready t)
    (hfits : (directory dir).fits id = true) (hrules : RuleList.ofText source = .ok rules) :
    ∃ t', (directory dir).compile id source t = (.ok rules, directory dir, t') ∧
      Built id (some rules) (directory dir) t (directory dir) t' := by
  obtain ⟨t₀, hmake, -, hstat, hfiles⟩ := h.exists_made
  have hreplace := FileTree.replaceText_eq_ok_iff.2
    ⟨canReplace_of_directory hid hname hstat hfiles (fits_directory_iff.1 hfits),
      Eq.refl (t₀.replaced _ _ (RuleList.text rules))⟩
  have hsame := FileTree.sameDirectories_replaceText hreplace
  generalize t₀.replaced _ _ _ = t' at hreplace hsame
  have hinto := compileInto_eq_ok_iff.2
    ⟨hrules, FileTree.replaceTextBelow_eq_ok_iff.2 ⟨t₀, hmake, hreplace⟩⟩
  have hcompile : (directory dir).compile id source t = (.ok rules, directory dir, t') := by
    rw [compile, hinto]
  obtain ⟨-, hholds, htouch⟩ := compile_ok hname h.tidy hcompile
  refine ⟨t', hcompile, htouch, ?_, ?_, ?_⟩
  · have hrooted := rooted_of_directory (hsame.stat_directory hstat)
    refine hrooted.ready (htouch.plain h.listable.plain) fun p hp => ?_
    rw [hsame.home] at hp
    rw [ne_eq, hsame.directory]
    exact hfiles p hp
  · rintro _ ⟨⟩
    exact hholds
  · rintro ⟨⟩

/-- No list is put into a directory if its paths are too long. -/
theorem Ready.compile_of_not_fits (h : (directory dir).Ready t)
    (hfits : (directory dir).fits id = false) (hrules : RuleList.ofText source = .ok rules) :
    ∃ t', (directory dir).compile id source t =
        (.error (.io id .nameTooLong), directory dir, t') ∧
      Built id none (directory dir) t (directory dir) t' := by
  obtain ⟨t', hmake, hgrown, hstat, hfiles⟩ := h.exists_made
  rw [Bool.eq_false_iff, ne_eq, fits_directory_iff, Nat.not_le] at hfits
  have hlong := replaceText_of_long hid hname hstat hfits (RuleList.text rules)
  have hcompile : (directory dir).compile id source t =
      (.error (.io id .nameTooLong), directory dir, t') := by
    rw [compile, compileInto_eq hrules, FileTree.replaceTextBelow, hmake]
    simp only [hlong]
  have htouch : Touches {id} (directory dir) t (directory dir) t' :=
    touches_of_writtenBy hname h.tidy (hgrown.confined.mono Set.Subset.rfl (Set.empty_subset _))
  have hready := (rooted_of_directory hstat).ready (htouch.plain h.listable.plain) hfiles
  refine ⟨t', hcompile, htouch, hready, ?_, fun _ hlacks => ?_⟩
  · rintro _ ⟨⟩
  · refine Lacks.of_confined hgrown.confined ?_ (fun _ _ => Set.notMem_empty _) hlacks
    rintro p rfl
    exact h.tidy _ ⟨_, place_filePath hid.toIsId _ _⟩

end Directory

/-- **What becomes of a list in a store that is ready** is a matter of its source and of the path of
the directory. -/
theorem Ready.compile (h : s.Ready t) (hid : FileId id) (hname : ListName id) (source : String) :
    ∃ r s' t', s.compile id source t = (r, s', t') ∧
      r.toOption = (if s.fits id then (RuleList.ofText source).toOption else none) ∧
      Built id r.toOption s t s' t' := by
  cases hrules : RuleList.ofText source with
  | error cause =>
    refine ⟨_, _, _, compile_of_error hrules s t, (ite_self none).symm, .refl _ s t, h, ?_, ?_⟩
    · rintro _ ⟨⟩
    · exact fun _ hlacks => hlacks
  | ok rules =>
    cases s with
    | directory dir =>
      cases hfits : (directory dir).fits id with
      | true =>
        obtain ⟨t', hcompile, hbuilt⟩ := h.compile_of_fits hid hname hfits hrules
        exact ⟨_, _, t', hcompile, rfl, hbuilt⟩
      | false =>
        obtain ⟨t', hcompile, hbuilt⟩ := h.compile_of_not_fits hid hname hfits hrules
        exact ⟨_, _, t', hcompile, rfl, hbuilt⟩
    | memory lists n =>
      have hcompile := compile_memory_of_ok hrules lists n id t
      obtain ⟨-, hholds, htouch⟩ := compile_ok hname h.tidy hcompile
      refine ⟨_, _, _, hcompile, rfl, htouch, ready_of_memory rfl t, ?_, ?_⟩
      · rintro _ ⟨⟩
        exact hholds
      · rintro ⟨⟩

end ContentBlocking.RuleStore
