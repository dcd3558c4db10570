import ContentBlocking.Proofs.Disk.FileName

/-!
# What operations on files leave alone

An operation on a file tree is `FileTree.Confined` to the places where it may make directories and
to those where it may write files: directories stay directories, and whatever is elsewhere stays as
it is.  Each operation that changes a tree is confined to the way of its path
(`FileTree.confined_createDirectories`, `FileTree.confined_replaceText`,
`FileTree.confined_removeFile`), also when it fails halfway.
-/

namespace ContentBlocking.FileTree

/-- A tree has changed at most by new directories at the places in `made` and by the files at the
places in `written`. -/
structure Confined (made written : Set Place) (t t' : FileTree) : Prop where
  home : t'.home = t.home
  now : t'.now = t.now
  directory : ∀ {p : Place}, t.entry? p = some .directory → t'.entry? p = some .directory
  kept : ∀ {p : Place} {e : Entry}, p ∉ written → t.entry? p = some e → t'.entry? p = some e
  absent : ∀ {p : Place}, p ∉ made → p ∉ written → t.entry? p = none → t'.entry? p = none

namespace Confined

variable {made made' written written' : Set Place} {t t' t'' : FileTree}

protected theorem refl (made written : Set Place) (t : FileTree) : Confined made written t t where
  home := rfl
  now := rfl
  directory := id
  kept _ := id
  absent _ _ := id

protected theorem trans (h : Confined made written t t') (h' : Confined made written t' t'') :
    Confined made written t t'' where
  home := h'.home.trans h.home
  now := h'.now.trans h.now
  directory hp := h'.directory (h.directory hp)
  kept hw hp := h'.kept hw (h.kept hw hp)
  absent hm hw hp := h'.absent hm hw (h.absent hm hw hp)

theorem mono (h : Confined made written t t') (hm : made ⊆ made') (hw : written ⊆ written') :
    Confined made' written' t t' where
  home := h.home
  now := h.now
  directory := h.directory
  kept hp := h.kept fun hp' => hp (hw hp')
  absent hp hp' := h.absent (fun h => hp (hm h)) fun h => hp' (hw h)

theorem entry_eq (h : Confined made written t t') {p : Place} (hm : p ∉ made) (hw : p ∉ written) :
    t'.entry? p = t.entry? p := by
  cases he : t.entry? p with
  | none => exact h.absent hm hw he
  | some e => exact h.kept hw he

end Confined

/-! ### Reading after a change -/

section Reading

variable {made written : Set Place} {t t' : FileTree}

/-- A path leads to the same place wherever the directories on its way are there. -/
theorem follow_eq_ok_of_directories
    (h : ∀ p, t.entry? p = some .directory → t'.entry? p = some .directory) {p q : Place}
    {parts : List (List Char)} (hq : t.follow p parts = .ok q) : t'.follow p parts = .ok q := by
  induction parts generalizing p with
  | nil => exact hq
  | cons part parts ih =>
    obtain ⟨hp, hpart, hq⟩ := follow_cons_eq_ok_iff.1 hq
    exact follow_cons_eq_ok_iff.2 ⟨h p hp, hpart, ih hq⟩

theorem resolve_eq_ok_of_directories (hhome : t'.home = t.home)
    (h : ∀ p, t.entry? p = some .directory → t'.entry? p = some .directory) {path : String}
    {q : Place} (hq : t.resolve path = .ok q) : t'.resolve path = .ok q := by
  rw [resolve] at hq ⊢
  split_ifs at hq ⊢ with hempty hnul hlong hslash
  · exact follow_eq_ok_of_directories h hq
  · rw [hhome]
    exact follow_eq_ok_of_directories h hq

theorem Confined.resolve_eq_ok (h : Confined made written t t') {path : String} {q : Place}
    (hq : t.resolve path = .ok q) : t'.resolve path = .ok q :=
  resolve_eq_ok_of_directories h.home (fun _ => h.directory) hq

theorem stat_eq_ok_iff {path : String} {e : Entry} :
    t.stat path = .ok e ↔ ∃ p, t.resolve path = .ok p ∧ t.entry? p = some e := by
  rw [stat, bind_eq_ok]
  refine exists_congr fun p => and_congr_right fun _ => ?_
  cases t.entry? p with
  | none =>
    constructor
    · intro h
      cases h
    · intro h
      cases h
  | some e' => simp [pure_eq_ok_iff]

/-- A directory is found as before. -/
theorem Confined.stat_directory (h : Confined made written t t') {path : String}
    (hstat : t.stat path = .ok .directory) : t'.stat path = .ok .directory := by
  obtain ⟨p, hp, hentry⟩ := stat_eq_ok_iff.1 hstat
  exact stat_eq_ok_iff.2 ⟨p, h.resolve_eq_ok hp, h.directory hentry⟩

theorem readText_eq_ok_iff {path text : String} :
    t.readText path = .ok text ↔
      ∃ p date, t.resolve path = .ok p ∧ t.entry? p = some (.file (.text text) date) := by
  rw [readText, bind_eq_ok]
  constructor
  · rintro ⟨e, he, h⟩
    obtain ⟨p, hp, hentry⟩ := stat_eq_ok_iff.1 he
    rcases e with _ | ⟨s | bytes, date⟩
    · cases h
    · cases h
      exact ⟨p, date, hp, hentry⟩
    · cases h
  · rintro ⟨p, date, hp, hentry⟩
    exact ⟨_, stat_eq_ok_iff.2 ⟨p, hp, hentry⟩, rfl⟩

theorem Confined.readText_eq_ok (h : Confined made written t t') {path text : String}
    (hp : Path.place t.home path ∉ written) (hread : t.readText path = .ok text) :
    t'.readText path = .ok text := by
  obtain ⟨p, date, hresolve, hentry⟩ := readText_eq_ok_iff.1 hread
  rw [← eq_place_of_resolve hresolve] at hp
  exact readText_eq_ok_iff.2 ⟨p, date, h.resolve_eq_ok hresolve, h.kept hp hentry⟩

theorem Confined.modified_eq_ok (h : Confined made written t t') {path : String} {date : Date}
    (hp : Path.place t.home path ∉ written) (hdate : t.modified path = .ok date) :
    t'.modified path = .ok date := by
  rw [modified, bind_eq_ok] at hdate ⊢
  obtain ⟨e, he, hdate⟩ := hdate
  obtain ⟨p, hresolve, hentry⟩ := stat_eq_ok_iff.1 he
  rw [← eq_place_of_resolve hresolve] at hp
  refine ⟨e, stat_eq_ok_iff.2 ⟨p, h.resolve_eq_ok hresolve, h.kept hp hentry⟩, ?_⟩
  cases e with
  | directory => rw [h.now]; exact hdate
  | file content date' => exact hdate

end Reading

/-! ### Listing -/

section Listing

variable {t : FileTree}

theorem follow_append (p : Place) (xs ys : List (List Char)) :
    t.follow p (xs ++ ys) = t.follow p xs >>= fun q => t.follow q ys := by
  induction xs generalizing p with
  | nil => rfl
  | cons part xs ih =>
    rw [List.cons_append, follow, follow]
    split
    · rfl
    · rfl
    · split_ifs
      · exact ih p
      · exact ih p.dropLast
      · simp only
        split_ifs
        · rfl
        · exact ih _

theorem follow_name {p : Place} (hp : t.entry? p = some .directory) {part : List Char}
    (hpart : Path.isName part = true) : t.follow p [part] ≠ .error .notFound := by
  simp only [Path.isName, Bool.and_eq_true, decide_eq_true_eq] at hpart
  simp only [follow, hp, if_neg (not_or.2 hpart.1), if_neg hpart.2]
  split_ifs <;> simp

theorem entryAt_ne_none_iff {p : Place} {name : String} :
    t.entry? (p ++ [name]) ≠ none ↔ p ++ [name] ∈ t.entries := by
  unfold entry?
  rw [if_neg (by simp), Std.ExtTreeMap.mem_iff_isSome_getElem?, Option.isSome_iff_ne_none]

theorem mem_children_iff {p : Place} {name : String} :
    name ∈ t.children p ↔ t.entry? (p ++ [name]) ≠ none := by
  rw [entryAt_ne_none_iff, children, List.mem_filterMap]
  constructor
  · rintro ⟨q, hq, hname⟩
    by_cases hp : q.dropLast = p
    · rw [if_pos hp] at hname
      rw [← hp, List.dropLast_append_getLast? name hname]
      exact Std.ExtTreeMap.mem_keys.1 hq
    · rw [if_neg hp] at hname
      cases hname
  · intro hmem
    refine ⟨p ++ [name], Std.ExtTreeMap.mem_keys.2 hmem, ?_⟩
    rw [List.dropLast_concat, if_pos rfl, List.getLast?_concat]

theorem list_eq_ok {path : String} {names : List String} (h : t.list path = .ok names) :
    t.resolve path = .ok (Path.place t.home path) ∧
      t.entry? (Path.place t.home path) = some .directory ∧
      names = t.children (Path.place t.home path) := by
  rw [list] at h
  obtain ⟨p, hp, h⟩ := bind_eq_ok.1 h
  obtain rfl := eq_place_of_resolve hp
  split at h
  · next hentry => exact ⟨hp, hentry, (pure_eq_ok_iff.1 h).symm⟩
  · cases h
  · cases h

theorem follow_nil_cons (p : Place) {parts : List (List Char)} (h : parts ≠ []) :
    t.follow p ([] :: parts) = t.follow p parts := by
  obtain ⟨part, parts, rfl⟩ := List.exists_cons_of_ne_nil h
  rw [follow]
  cases hp : t.entry? p with
  | none => simp only [follow, hp]
  | some e =>
    cases e with
    | file content date => simp only [follow, hp]
    | directory => simp only [true_or, if_true]

/-- A name in a directory is looked for in the place of the directory. -/
theorem follow_join {dir name : String} (p : Place) (hdir : dir.isEmpty = false)
    (hslash : '/' ∉ name.toList) :
    t.follow p (Path.parts (Path.join dir name)) =
      t.follow p (Path.parts dir) >>= fun q => t.follow q [name.toList] := by
  have hjoin := Path.toList_join hslash dir
  rw [Path.base, hdir, if_neg Bool.false_ne_true] at hjoin
  by_cases hend : dir.endsWith "/" = true
  · obtain ⟨front, hfront⟩ := Path.endsWith_slash_iff.1 hend
    rw [if_pos hend, hfront, List.append_assoc, List.singleton_append] at hjoin
    have hempty : Text.splitOn '/' [] = [[]] := rfl
    rw [Path.parts, Path.parts, hjoin, hfront, Text.splitOn_append_cons, Text.splitOn_append_cons,
      Text.splitOn_of_not_mem hslash, hempty, ← follow_append, List.append_assoc, follow_append,
      follow_append]
    exact congrArg _ (funext fun q => (follow_nil_cons q (List.cons_ne_nil _ _)).symm)
  · rw [if_neg hend, List.append_assoc, List.singleton_append] at hjoin
    rw [Path.parts, hjoin, Text.splitOn_append_cons, Text.splitOn_of_not_mem hslash, follow_append]
    rfl

theorem isEmpty_join {dir name : String} (hdir : dir.isEmpty = false)
    (hslash : '/' ∉ name.toList) : (Path.join dir name).isEmpty = false := by
  rw [Bool.eq_false_iff, ne_eq, String.isEmpty_iff] at hdir ⊢
  rw [← String.toList_eq_nil_iff] at hdir ⊢
  rw [Path.toList_join hslash, Path.base, List.append_eq_nil_iff, not_and_or]
  left
  split_ifs with hempty
  · exact absurd (String.toList_eq_nil_iff.2 (String.isEmpty_iff.1 hempty)) hdir
  · exact hdir
  · simp

/-- A path into a directory starts where the path of the directory does. -/
theorem startsWith_join {dir name : String} (hdir : dir.isEmpty = false)
    (hslash : '/' ∉ name.toList) :
    (Path.join dir name).startsWith "/" = dir.startsWith "/" := by
  rw [Bool.eq_iff_iff, Path.startsWith_slash_iff, Path.startsWith_slash_iff,
    Path.toList_join hslash, Path.base, hdir, if_neg Bool.false_ne_true]
  have hcons : dir.toList ≠ [] := by
    rw [ne_eq, String.toList_eq_nil_iff, ← String.isEmpty_iff, hdir]
    exact Bool.false_ne_true
  obtain ⟨c, cs, hcs⟩ := List.exists_cons_of_ne_nil hcons
  split_ifs <;> simp [hcs]

theorem resolve_join_ne_notFound {dir name : String} {p : Place} (hp : t.resolve dir = .ok p)
    (hentry : t.entry? p = some .directory) (hname : Path.PlainName name) :
    t.resolve (Path.join dir name) ≠ .error .notFound := by
  rw [resolve] at hp
  split_ifs at hp with hdir hnul hlong
  all_goals
    rw [Bool.not_eq_true] at hdir
    rw [resolve, if_neg (by rw [isEmpty_join hdir hname.noSlash]; exact Bool.false_ne_true),
      startsWith_join hdir hname.noSlash]
    split_ifs
    · simp
    · simp
    · rw [follow_join _ hdir hname.noSlash, hp]
      exact follow_name hentry hname.isName

/-- A name in a directory leads to the same place after a change, or fails as before. -/
theorem Confined.resolve_join {made written : Set Place} {t' : FileTree}
    (h : Confined made written t t') {dir name : String} {p : Place} (hp : t.resolve dir = .ok p)
    (hentry : t.entry? p = some .directory) (hslash : '/' ∉ name.toList) :
    t'.resolve (Path.join dir name) = t.resolve (Path.join dir name) := by
  have hp' := h.resolve_eq_ok hp
  have hlast : t'.follow p [name.toList] = t.follow p [name.toList] := by
    simp only [follow, hentry, h.directory hentry]
  rw [resolve] at hp hp'
  split_ifs at hp hp' with hdir hnul hlong hstart
  all_goals
    rw [Bool.not_eq_true] at hdir
    rw [resolve, resolve, startsWith_join hdir hslash]
    simp only [hstart, if_true, Bool.false_eq_true, if_false, follow_join _ hdir hslash, hp, hp',
      ok_bind, hlast]

/-- A file in a directory that is not written to is read as before, and so are its faults. -/
theorem Confined.readText_join {made written : Set Place} {t' : FileTree}
    (h : Confined made written t t') {dir name : String} {p : Place} (hp : t.resolve dir = .ok p)
    (hentry : t.entry? p = some .directory) (hslash : '/' ∉ name.toList)
    (hkept : t'.entry? (Path.place t.home (Path.join dir name)) =
      t.entry? (Path.place t.home (Path.join dir name))) :
    t'.readText (Path.join dir name) = t.readText (Path.join dir name) := by
  have hstat : t'.stat (Path.join dir name) = t.stat (Path.join dir name) := by
    rw [stat, stat, h.resolve_join hp hentry hslash]
    cases hresolve : t.resolve (Path.join dir name) with
    | error e => rfl
    | ok q =>
      obtain rfl := eq_place_of_resolve hresolve
      rw [ok_bind, ok_bind, hkept]
  rw [readText, readText, hstat]

theorem Confined.list_eq_ok {made written : Set Place} {t' : FileTree}
    (h : Confined made written t t') {path : String} {names : List String}
    (hnames : t.list path = .ok names) :
    t'.list path = .ok (t'.children (Path.place t.home path)) := by
  obtain ⟨hresolve, hentry, -⟩ := FileTree.list_eq_ok hnames
  rw [list, h.resolve_eq_ok hresolve, ok_bind, h.directory hentry]
  rfl

end Listing

/-! ### Single changes -/

section Changes

variable {t t' : FileTree}

theorem entryAt_put {p : Place} (hp : p ≠ []) (e : Entry) (q : Place) :
    FileTree.entry? (t.put p e) q = if q = p then some e else t.entry? q := by
  unfold entry?
  by_cases hq : q = p
  · subst hq
    rw [if_neg hp, if_pos rfl, put, Std.ExtTreeMap.getElem?_insert_self]
  · rw [if_neg hq, put, Std.ExtTreeMap.getElem?_insert,
      if_neg fun h => hq (Std.LawfulEqCmp.compare_eq_iff_eq.1 h).symm]

theorem entryAt_drop {p : Place} (hp : p ≠ []) (q : Place) :
    FileTree.entry? (t.drop p) q = if q = p then none else t.entry? q := by
  unfold entry?
  by_cases hq : q = p
  · subst hq
    rw [if_neg hp, if_pos rfl, drop, Std.ExtTreeMap.getElem?_erase_self]
  · rw [if_neg hq, drop, Std.ExtTreeMap.getElem?_erase,
      if_neg fun h => hq (Std.LawfulEqCmp.compare_eq_iff_eq.1 h).symm]

theorem ne_nil_of_not_directory {p : Place} (h : t.entry? p ≠ some .directory) : p ≠ [] := by
  rintro rfl
  exact h rfl

theorem confined_of_forall_ne {p : Place} (hp : t.entry? p ≠ some .directory)
    (hhome : t'.home = t.home) (hnow : t'.now = t.now)
    (h : ∀ q, q ≠ p → t'.entry? q = t.entry? q) : Confined ∅ {p} t t' where
  home := hhome
  now := hnow
  directory {q} hq := by
    have hne : q ≠ p := by
      rintro rfl
      exact hp hq
    rw [h q hne, hq]
  kept {q e} hq he := by rw [h q hq, he]
  absent {q} _ hq hnone := by rw [h q hq, hnone]

theorem confined_put_file {p : Place} (hp : t.entry? p ≠ some .directory) (content : Content)
    (date : Date) : Confined ∅ {p} t (t.put p (.file content date)) := by
  refine confined_of_forall_ne hp rfl rfl fun q hq => ?_
  rw [entryAt_put (ne_nil_of_not_directory hp), if_neg hq]

theorem confined_drop {p : Place} (hp : t.entry? p ≠ some .directory) :
    Confined ∅ {p} t (t.drop p) := by
  refine confined_of_forall_ne hp rfl rfl fun q hq => ?_
  rw [entryAt_drop (ne_nil_of_not_directory hp), if_neg hq]

/-! ### Files -/

theorem writeText_eq_ok {path text : String} (h : t.writeText path text = .ok t') :
    t.resolve path = .ok (Path.place t.home path) ∧
      t.entry? (Path.place t.home path) ≠ some .directory ∧
      t' = t.put (Path.place t.home path) (.file (.text text) t.now) := by
  rw [writeText] at h
  obtain ⟨p, hp, h⟩ := bind_eq_ok.1 h
  obtain rfl := eq_place_of_resolve hp
  refine ⟨hp, ?_⟩
  split at h
  · cases h
  · next hentry => exact ⟨hentry, (pure_eq_ok_iff.1 h).symm⟩

theorem removeFile_eq_ok {path : String} (h : t.removeFile path = .ok t') :
    (∃ content date, t.entry? (Path.place t.home path) = some (.file content date)) ∧
      t' = t.drop (Path.place t.home path) := by
  rw [removeFile] at h
  obtain ⟨p, hp, h⟩ := bind_eq_ok.1 h
  obtain rfl := eq_place_of_resolve hp
  split at h
  · cases h
  · cases h
  · next content date hentry => exact ⟨⟨content, date, hentry⟩, (pure_eq_ok_iff.1 h).symm⟩

theorem confined_removeFile {path : String} (h : t.removeFile path = .ok t') :
    Confined ∅ {Path.place t.home path} t t' := by
  obtain ⟨⟨content, date, hentry⟩, rfl⟩ := removeFile_eq_ok h
  exact confined_drop (by rw [hentry]; simp)

theorem entryAt_removeFile {path : String} (h : t.removeFile path = .ok t') :
    t'.entry? (Path.place t.home path) = none := by
  obtain ⟨⟨content, date, hentry⟩, rfl⟩ := removeFile_eq_ok h
  have hnil : Path.place t.home path ≠ [] :=
    ne_nil_of_not_directory (t := t) (by rw [hentry]; simp)
  rw [entryAt_drop hnil, if_pos rfl]

theorem entryAt_removeFile_of_ne {path : String} (h : t.removeFile path = .ok t') {p : Place}
    (hp : p ≠ Path.place t.home path) : t'.entry? p = t.entry? p := by
  obtain ⟨⟨content, date, hentry⟩, rfl⟩ := removeFile_eq_ok h
  have hnil : Path.place t.home path ≠ [] :=
    ne_nil_of_not_directory (t := t) (by rw [hentry]; simp)
  rw [entryAt_drop hnil, if_neg hp]

theorem entry_of_removeFile {path : String} (h : t.removeFile path = .ok t') {p : Place}
    (hp : t'.entry? p ≠ none) : t.entry? p ≠ none := by
  obtain ⟨⟨content, date, hentry⟩, rfl⟩ := removeFile_eq_ok h
  have hnil : Path.place t.home path ≠ [] :=
    ne_nil_of_not_directory (t := t) (by rw [hentry]; simp)
  rw [entryAt_drop hnil] at hp
  split_ifs at hp
  · exact absurd rfl hp
  · exact hp

theorem rename_eq_ok {source target : String} (h : t.rename source target = .ok t') :
    ∃ content date, t.entry? (Path.place t.home source) = some (.file content date) ∧
      t.resolve target = .ok (Path.place t.home target) ∧
      t.entry? (Path.place t.home target) ≠ some .directory ∧
      t' = (t.drop (Path.place t.home source)).put (Path.place t.home target)
        (.file content date) := by
  rw [rename] at h
  obtain ⟨p, hp, h⟩ := bind_eq_ok.1 h
  obtain rfl := eq_place_of_resolve hp
  split at h
  · cases h
  · cases h
  · next content date hsource =>
    obtain ⟨q, hq, h⟩ := bind_eq_ok.1 h
    obtain rfl := eq_place_of_resolve hq
    refine ⟨content, date, hsource, hq, ?_⟩
    split at h
    · cases h
    · next htarget => exact ⟨htarget, (pure_eq_ok_iff.1 h).symm⟩

theorem confined_rename {source target : String} (h : t.rename source target = .ok t') :
    Confined ∅ {Path.place t.home source, Path.place t.home target} t t' := by
  obtain ⟨content, date, hsource, -, htarget, rfl⟩ := rename_eq_ok h
  have hdrop : Confined ∅ {Path.place t.home source} t (t.drop (Path.place t.home source)) :=
    confined_drop (by rw [hsource]; simp)
  have hnone : FileTree.entry? (t.drop (Path.place t.home source)) (Path.place t.home target) ≠
      some .directory := by
    have hnil : Path.place t.home source ≠ [] :=
      ne_nil_of_not_directory (t := t) (by rw [hsource]; simp)
    rw [entryAt_drop hnil]
    split_ifs
    · simp
    · exact htarget
  refine (hdrop.mono (Set.Subset.refl _) ?_).trans
    ((confined_put_file hnone content date).mono (Set.Subset.refl _) ?_)
  · rintro p rfl
    exact .inl rfl
  · rintro p rfl
    exact .inr rfl

/-- The places that a replacement of a file writes to. -/
def writtenBy (home : Place) (beside target : String) : Set Place :=
  {Path.place home beside, Path.place home target}

theorem confined_replaceText (t : FileTree) (beside target text : String) :
    Confined ∅ (writtenBy t.home beside target) t (t.replaceText beside target text).2 := by
  rw [replaceText]
  cases hwrite : t.writeText beside text with
  | error e => exact .refl _ _ t
  | ok t₁ =>
    obtain ⟨-, hentry, rfl⟩ := writeText_eq_ok hwrite
    have hput : Confined ∅ (writtenBy t.home beside target) t
        (t.put (Path.place t.home beside) (.file (.text text) t.now)) := by
      refine (confined_put_file hentry _ _).mono (Set.Subset.refl _) ?_
      rintro p rfl
      exact .inl rfl
    simp only
    split
    · exact hput
    · next t₂ hrename => exact hput.trans (confined_rename hrename)

/-- A file that was replaced holds its new text. -/
theorem readText_replaceText {beside target text : String}
    (h : t.replaceText beside target text = (.ok (), t')) : t'.readText target = .ok text := by
  rw [replaceText] at h
  cases hwrite : t.writeText beside text with
  | error e => simp [hwrite] at h
  | ok t₁ =>
    simp only [hwrite] at h
    cases hrename : t₁.rename beside target with
    | error e => simp [hrename] at h
    | ok t₂ =>
      simp only [hrename, Prod.mk.injEq, true_and] at h
      subst h
      obtain ⟨-, hentry, rfl⟩ := writeText_eq_ok hwrite
      have hnil := ne_nil_of_not_directory hentry
      have hconfined := confined_rename hrename
      obtain ⟨content, date, hsource, hresolve, htarget, rfl⟩ := rename_eq_ok hrename
      have hcontent : content = .text text := by
        change FileTree.entry? (t.put _ _) (Path.place t.home beside) = _ at hsource
        rw [entryAt_put hnil, if_pos rfl] at hsource
        cases hsource
        rfl
      have htarget' := ne_nil_of_not_directory htarget
      refine readText_eq_ok_iff.2 ⟨_, date, hconfined.resolve_eq_ok hresolve, ?_⟩
      rw [entryAt_put htarget', if_pos rfl, hcontent]

/-! ### Directories -/

/-- A directory was made at a place that held nothing. -/
def IsNewDirectory (t t' : FileTree) (p : Place) : Prop :=
  t.entry? p = none ∧ t'.entry? p = some .directory

/-- A tree has changed at most by new directories at the places in `made`. -/
structure Grown (made : Set Place) (t t' : FileTree) : Prop where
  home : t'.home = t.home
  now : t'.now = t.now
  entry : ∀ p, t'.entry? p = t.entry? p ∨ p ∈ made ∧ IsNewDirectory t t' p

namespace Grown

variable {made made' : Set Place} {t'' : FileTree}

protected theorem refl (made : Set Place) (t : FileTree) : Grown made t t where
  home := rfl
  now := rfl
  entry _ := .inl rfl

protected theorem trans (h : Grown made t t') (h' : Grown made t' t'') : Grown made t t'' where
  home := h'.home.trans h.home
  now := h'.now.trans h.now
  entry p := by
    rcases h.entry p with hp | ⟨hmem, hp⟩ <;> rcases h'.entry p with hp' | ⟨hmem', hp'⟩
    · exact .inl (hp'.trans hp)
    · exact .inr ⟨hmem', hp.symm.trans hp'.1, hp'.2⟩
    · exact .inr ⟨hmem, hp.1, hp'.trans hp.2⟩
    · exact .inr ⟨hmem, hp.1, hp'.2⟩

theorem mono (h : Grown made t t') (hm : made ⊆ made') : Grown made' t t' where
  home := h.home
  now := h.now
  entry p := (h.entry p).imp_right fun hp => ⟨hm hp.1, hp.2⟩

theorem confined (h : Grown made t t') : Confined made ∅ t t' where
  home := h.home
  now := h.now
  directory {p} hp := (h.entry p).elim (fun heq => heq.trans hp) fun hnew => hnew.2.2
  kept {p e} _ he := by
    refine (h.entry p).elim (fun heq => heq.trans he) fun hnew => ?_
    rw [hnew.2.1] at he
    cases he
  absent {p} hm _ hnone := (h.entry p).elim (fun heq => heq.trans hnone) fun hnew => absurd hnew.1 hm

end Grown

/-- A directory is made where nothing was. -/
theorem createDirectory_eq_ok {path : String} (h : t.createDirectory path = .ok t') :
    path.utf8ByteSize ≤ maxPathLength ∧
      t.resolve (Path.withoutSlashes path) =
        .ok (Path.place t.home (Path.withoutSlashes path)) ∧
      t.entry? (Path.place t.home (Path.withoutSlashes path)) = none ∧
      t' = t.put (Path.place t.home (Path.withoutSlashes path)) .directory := by
  rw [createDirectory] at h
  split_ifs at h with hlong
  obtain ⟨p, hp, h⟩ := bind_eq_ok.1 h
  obtain rfl := eq_place_of_resolve hp
  split at h
  · next hentry =>
    refine ⟨?_, hp, hentry, (Except.ok.inj h).symm⟩
    -- a path with a NUL character does not resolve without its slashes either
    have hnul : '\x00' ∉ path.toList := by
      intro hmem
      have hmem' := Path.mem_withoutSlashes hmem (by decide)
      rw [resolve, if_pos (List.contains_iff_mem.2 hmem')] at hp
      split_ifs at hp
    exact Nat.not_lt.1 fun hlt => hlong ⟨hlt, hnul⟩
  · cases h

theorem grown_createDirectory {path : String} (h : t.createDirectory path = .ok t') :
    Grown (Path.way t.home path) t t' := by
  obtain ⟨-, -, hentry, rfl⟩ := createDirectory_eq_ok h
  have hnil : Path.place t.home (Path.withoutSlashes path) ≠ [] :=
    ne_nil_of_not_directory (t := t) (by rw [hentry]; simp)
  refine ⟨rfl, rfl, fun q => ?_⟩
  by_cases hq : q = Path.place t.home (Path.withoutSlashes path)
  · subst hq
    refine .inr ⟨Path.way_withoutSlashes_subset path (Path.place_mem_way _), hentry, ?_⟩
    rw [entryAt_put hnil, if_pos rfl]
  · rw [entryAt_put hnil, if_neg hq]
    exact .inl rfl

/-- What each directory made on the way of a path preserves, making all of them preserves, also if
that fails halfway. -/
theorem createAll_preserves {P : FileTree → Prop} (home : Place) {made : Set Place}
    (hstep : ∀ {t t' path}, P t → Path.way home path ⊆ made → t.createDirectory path = .ok t' → P t')
    {path : String} (hway : Path.way home path ⊆ made) (h : P t) (fuel : ℕ) :
    P (t.createAll path fuel).2 := by
  have hsettle : ∀ {t path}, P t → Path.way home path ⊆ made → ∀ r, (∀ t', r = .ok t' → P t') →
      P (createAll.settle t path r).2 := by
    intro t path ht _ r hr
    cases r with
    | ok t' => exact hr t' rfl
    | error e =>
      rw [createAll.settle]
      split_ifs
      · exact ht
      · exact ht
  induction fuel generalizing path with
  | zero => exact h
  | succ fuel ih =>
    rw [createAll]
    split_ifs
    · exact h
    · split
      · next t' hcreate => exact hstep h hway hcreate
      · split
        · exact h
        · next parent hparent =>
          -- the directory above is made first, on the way to this one
          have hall := ih ((Path.way_subset_of_parent? hparent).trans hway)
          split
          · next e t' heq =>
            rw [heq] at hall
            exact hall
          · next t' heq =>
            rw [heq] at hall
            exact hsettle hall hway _ fun t'' ht'' => hstep hall hway ht''
      · refine hsettle h hway _ ?_
        rintro t' ⟨⟩

theorem grown_createAll (t : FileTree) (path : String) (fuel : ℕ) :
    Grown (Path.way t.home path) t (t.createAll path fuel).2 := by
  refine createAll_preserves t.home (fun {t₁ t₂ path'} h hway hcreate => ?_)
    Set.Subset.rfl (Grown.refl _ t) _
  have hnew := grown_createDirectory hcreate
  rw [h.home] at hnew
  exact h.trans (hnew.mono hway)

theorem grown_createDirectories (t : FileTree) (path : String) :
    Grown (Path.way t.home path) t (t.createDirectories path).2 :=
  grown_createAll t path _

theorem confined_createDirectories (t : FileTree) (path : String) :
    Confined (Path.way t.home path) ∅ t (t.createDirectories path).2 :=
  (grown_createDirectories t path).confined

end Changes

end ContentBlocking.FileTree
