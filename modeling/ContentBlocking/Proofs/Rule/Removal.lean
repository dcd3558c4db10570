import ContentBlocking.Proofs.Rule.Mirror

/-!
# Removing what a directory lists

A store in a directory lists every entry whose name has the extension of its files, a subdirectory
as well as a file, and removes files only.  So a listed identifier can be removed exactly if its
entry is a file and the path of that file is not too long for the disk: `RuleStore.isRemovable`.
A removal that succeeds takes its own identifier off the list and leaves all others as they are; one
that fails changes nothing.
-/

namespace ContentBlocking.RuleStore

open FileTree (IsPart Confined)

variable {s : RuleStore} {t t' : FileTree} {dir id id' : String} {ids names : List String}

/-- The identifiers of a store are sorted, each of them once. -/
theorem pairwise_identifiers (h : s.identifiers t = .ok ids) : ids.Pairwise (· < ·) := by
  cases s with
  | directory dir => exact pairwise_identifiersIn h
  | memory lists n =>
    obtain rfl := Except.ok.inj h
    exact pairwise_keys lists

/-! ### What is listed -/

/-- The entries of a directory have names that a disk can give them. -/
def RealNames (dir : String) (t : FileTree) : Prop :=
  ∀ name, t.entry? (Path.place t.home dir ++ [name]) ≠ none → IsPart name

theorem identifiersIn_of_list (h : t.list dir = .ok names) :
    ∃ ids, identifiersIn dir t = .ok ids := by
  rw [identifiersIn, h]
  exact ⟨_, rfl⟩

/-- A directory lists an identifier if it has an entry with the name of its file. -/
theorem mem_identifiersIn_iff_entry (hnames : t.list dir = .ok names)
    (hids : identifiersIn dir t = .ok ids) :
    id ∈ ids ↔ id.toList ≠ [] ∧
      t.entry? (Path.place t.home dir ++ [id ++ "." ++ extension]) ≠ none := by
  rw [mem_identifiersIn_iff hnames hids]
  obtain ⟨-, -, rfl⟩ := FileTree.list_eq_ok hnames
  constructor
  · rintro ⟨name, hname, hext, rfl⟩
    obtain ⟨heq, hne⟩ := eq_fileName_of_extension? hext
    rw [← heq]
    exact ⟨hne, FileTree.mem_children_iff.1 hname⟩
  · rintro ⟨hne, hentry⟩
    refine ⟨_, FileTree.mem_children_iff.2 hentry, ?_, stem_fileName hne⟩
    rw [Path.extension?, splitName_fileName hne]
    rfl

/-- An identifier in a directory that can be listed, with the name of its file. -/
structure IsListed (dir : String) (t : FileTree) (id : String) : Prop where
  directory : t.stat dir = .ok .directory
  isId : IsId id
  isPart : IsPart (id ++ "." ++ extension)
  present : t.entry? (Path.place t.home (filePath dir id)) ≠ none

theorem isListed_of_mem (hreal : RealNames dir t) (hids : identifiersIn dir t = .ok ids)
    (h : id ∈ ids) : IsListed dir t id := by
  cases hnames : t.list dir with
  | error e =>
    rw [identifiersIn, hnames] at hids
    cases e <;> cases hids
    cases h
  | ok names =>
    obtain ⟨hne, hentry⟩ := (mem_identifiersIn_iff_entry hnames hids).1 h
    have hpart := hreal _ hentry
    have hid : IsId id := by
      refine ⟨fun hslash => hpart.noSlash ?_, hne⟩
      rw [toList_fileName]
      exact List.mem_append_left _ hslash
    obtain ⟨hresolve, hdirectory, -⟩ := FileTree.list_eq_ok hnames
    refine ⟨FileTree.stat_eq_ok_iff.2 ⟨_, hresolve, hdirectory⟩, hid, hpart, ?_⟩
    rw [place_filePath hid]
    exact hentry

/-! ### What is removed -/

/-- The entry of an identifier is a file whose path is not too long for the disk. -/
def isRemovable (dir : String) (t : FileTree) (id : String) : Bool :=
  match t.entry? (Path.place t.home (filePath dir id)) with
  | some (.file ..) => decide ((filePath dir id).utf8ByteSize ≤ FileTree.maxPathLength)
  | _ => false

/-- **A listed identifier is removed with its file, or not at all.** -/
theorem IsListed.removeFrom (h : IsListed dir t id) :
    (isRemovable dir t id = true ∧ ∃ t', t.removeFile (filePath dir id) = .ok t' ∧
        removeFrom dir id t = (.ok (), t')) ∨
      isRemovable dir t id = false ∧ ∃ cause, removeFrom dir id t = (.error (.io id cause), t) := by
  have hresolve := FileTree.resolve_join_of_directory h.directory h.isPart
    (plainName_fileName h.isId)
  rw [← place_filePath h.isId, ← filePath] at hresolve
  obtain ⟨e, he⟩ := Option.ne_none_iff_exists'.1 h.present
  by_cases hlong : FileTree.maxPathLength < (filePath dir id).utf8ByteSize
  · -- the directory can be listed, but its path leaves no room for this name
    have hremove : t.removeFile (filePath dir id) = .error .nameTooLong := by
      rw [FileTree.removeFile, hresolve, if_pos hlong]
      rfl
    refine .inr ⟨?_, .nameTooLong, ?_⟩
    · rw [isRemovable, he]
      cases e with
      | directory => rfl
      | file content date => exact decide_eq_false (Nat.not_le.2 hlong)
    · simp only [RuleStore.removeFrom, hremove]
  · rw [if_neg hlong] at hresolve
    cases e with
    | directory =>
      -- listed by its name, but only files are removed
      have hremove : t.removeFile (filePath dir id) = .error .isDirectory := by
        rw [FileTree.removeFile, hresolve, ok_bind, he]
        rfl
      refine .inr ⟨?_, .isDirectory, ?_⟩
      · rw [isRemovable, he]
      · simp only [RuleStore.removeFrom, hremove]
    | file content date =>
      have hremove : t.removeFile (filePath dir id) =
          .ok (t.drop (Path.place t.home (filePath dir id))) := by
        rw [FileTree.removeFile, hresolve, ok_bind, he]
        rfl
      refine .inl ⟨?_, _, hremove, ?_⟩
      · rw [isRemovable, he]
        exact decide_eq_true (Nat.not_lt.1 hlong)
      · simp only [RuleStore.removeFrom, hremove]

/-! ### What is left -/

theorem RealNames.removeFile (hreal : RealNames dir t) (h : t.removeFile (filePath dir id) = .ok t') :
    RealNames dir t' := by
  intro name hentry
  rw [(FileTree.confined_removeFile h).home] at hentry
  exact hreal name (FileTree.entry_of_removeFile h hentry)

/-- A removed file takes its identifier off the list. -/
theorem identifiersIn_removeFile (hlisted : IsListed dir t id) (hids : identifiersIn dir t = .ok ids)
    (h : t.removeFile (filePath dir id) = .ok t') : identifiersIn dir t' = .ok (ids.erase id) := by
  have hnames := FileTree.list_of_directory hlisted.directory
  have hconfined := FileTree.confined_removeFile h
  have hnames' := hconfined.list_eq_ok hnames
  obtain ⟨ids', hids'⟩ := identifiersIn_of_list hnames'
  have hsorted := pairwise_identifiersIn hids
  have hnodup : ids.Nodup := hsorted.imp ne_of_lt
  rw [hids']
  refine congrArg _ ((pairwise_identifiersIn hids').eq_of_mem_iff
    (hsorted.sublist List.erase_sublist) fun {x} => ?_)
  rw [mem_identifiersIn_iff_entry hnames' hids', hnodup.mem_erase_iff,
    mem_identifiersIn_iff_entry hnames hids, hconfined.home]
  by_cases hx : x = id
  · -- the entry of the removed file is gone
    have hgone := FileTree.entryAt_removeFile h
    rw [place_filePath hlisted.isId] at hgone
    simp [hx, hgone]
  · have hne : Path.place t.home dir ++ [x ++ "." ++ extension] ≠
        Path.place t.home (filePath dir id) := by
      rw [place_filePath hlisted.isId]
      intro heq
      exact hx (fileName_injective (List.singleton_inj.1 (List.append_cancel_left heq)))
    rw [FileTree.entryAt_removeFile_of_ne h hne]
    simp [hx]

variable (hlisted : IsListed dir t id) (hlisted' : IsListed dir t id') (hne : id' ≠ id)
  (h : t.removeFile (filePath dir id) = .ok t')
include hlisted hlisted' hne h

theorem entry_removeFile_of_ne :
    t'.entry? (Path.place t.home (filePath dir id')) =
      t.entry? (Path.place t.home (filePath dir id')) :=
  FileTree.entryAt_removeFile_of_ne h (place_filePath_ne hlisted'.isId hlisted.isId hne _ dir)

/-- Another listed identifier can be removed as before. -/
theorem isRemovable_removeFile : isRemovable dir t' id' = isRemovable dir t id' := by
  rw [isRemovable, isRemovable, (FileTree.confined_removeFile h).home,
    entry_removeFile_of_ne hlisted hlisted' hne h]

/-- Another listed identifier is looked up as before. -/
theorem lookupIn_removeFile : lookupIn dir id' t' = lookupIn dir id' t := by
  obtain ⟨hresolve, hentry⟩ := FileTree.resolve_of_stat hlisted.directory
  have hread := (FileTree.confined_removeFile h).readText_join hresolve hentry
    (plainName_fileName hlisted'.isId).noSlash (entry_removeFile_of_ne hlisted hlisted' hne h)
  rw [lookupIn, lookupIn, filePath, hread]

end ContentBlocking.RuleStore
