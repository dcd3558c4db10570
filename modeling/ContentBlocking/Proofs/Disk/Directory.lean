import ContentBlocking.Proofs.Disk.Confined
import ContentBlocking.Proofs.Keys
import Mathlib.Data.List.Nodup

/-!
# Files in a directory

Under the limits of the disk, a name below a directory resolves to the entry of that name in the
place of the directory (`FileTree.resolve_join`), and everything below a missing directory is
missing too.  Making a directory changes nothing if it is there, and was possible only if it was
there or nothing was in its place (`FileTree.of_createDirectories_eq_ok`).
-/

namespace ContentBlocking.FileTree

variable {t t' : FileTree} {dir name : String}

/-! ### Names below a directory -/

/-- A text that the disk takes for a part of a path. -/
structure IsPart (name : String) : Prop where
  noSlash : '/' ∉ name.toList
  noNul : '\x00' ∉ name.toList
  short : name.utf8ByteSize ≤ maxNameLength

/-- Every name below a directory is short enough for a path. -/
def HasRoom (dir : String) : Prop := dir.utf8ByteSize + 1 + maxNameLength ≤ maxPathLength

instance (dir : String) : Decidable (HasRoom dir) := inferInstanceAs (Decidable (_ ≤ _))

theorem HasRoom.short (h : HasRoom dir) : dir.utf8ByteSize ≤ maxPathLength := by
  unfold HasRoom at h
  omega

theorem utf8ByteSize_join_le (dir : String) (hslash : '/' ∉ name.toList) :
    (Path.join dir name).utf8ByteSize ≤ dir.utf8ByteSize + 1 + name.utf8ByteSize := by
  have hstart : name.startsWith "/" = false := by
    rw [Bool.eq_false_iff]
    intro hs
    exact hslash (List.mem_of_head? (Path.startsWith_slash_iff.1 hs))
  have hslashSize : ("/" : String).utf8ByteSize = 1 := rfl
  rw [Path.join, hstart, Bool.false_or]
  split_ifs
  · omega
  · rw [String.utf8ByteSize_append]
    omega
  · rw [String.utf8ByteSize_append, String.utf8ByteSize_append]
    omega

theorem nul_mem_join_iff (hdir : dir.isEmpty = false) (hslash : '/' ∉ name.toList)
    (hnul : '\x00' ∉ name.toList) :
    '\x00' ∈ (Path.join dir name).toList ↔ '\x00' ∈ dir.toList := by
  rw [Path.toList_join hslash, Path.base, hdir, if_neg Bool.false_ne_true]
  split_ifs <;> simp [hnul]

theorem resolve_eq_follow {path : String} (hempty : path.isEmpty = false)
    (hshort : path.utf8ByteSize ≤ maxPathLength) :
    t.resolve path = if '\x00' ∈ path.toList then .error .invalidName
      else t.follow (if path.startsWith "/" then [] else t.home) (Path.parts path) := by
  rw [resolve, hempty, if_neg Bool.false_ne_true, if_neg (Nat.not_lt.2 hshort)]
  exact if_congr List.contains_iff_mem rfl rfl

theorem HasRoom.join_short (h : HasRoom dir) (hname : IsPart name) :
    (Path.join dir name).utf8ByteSize ≤ maxPathLength :=
  (utf8ByteSize_join_le dir hname.noSlash).trans ((Nat.add_le_add_left hname.short _).trans h)

/-- A path below a directory leads to the place of the directory first. -/
theorem resolve_join_eq (hdir : dir.isEmpty = false) (hroom : HasRoom dir) (hname : IsPart name) :
    t.resolve (Path.join dir name) = t.resolve dir >>= fun p => t.follow p [name.toList] := by
  have hnul := nul_mem_join_iff hdir hname.noSlash hname.noNul
  rw [resolve_eq_follow (isEmpty_join hdir hname.noSlash) (hroom.join_short hname),
    resolve_eq_follow hdir hroom.short, startsWith_join hdir hname.noSlash]
  by_cases hdirNul : '\x00' ∈ dir.toList
  · rw [if_pos (hnul.2 hdirNul), if_pos hdirNul]
    rfl
  · rw [if_neg (hnul.not.2 hdirNul), if_neg hdirNul]
    exact follow_join _ hdir hname.noSlash

theorem isEmpty_of_stat {e : Entry} (h : t.stat dir = .ok e) : dir.isEmpty = false := by
  rw [Bool.eq_false_iff]
  intro hempty
  obtain ⟨p, hp, -⟩ := stat_eq_ok_iff.1 h
  rw [resolve, if_pos hempty] at hp
  cases hp

theorem resolve_of_stat {e : Entry} (h : t.stat dir = .ok e) :
    t.resolve dir = .ok (Path.place t.home dir) ∧ t.entry? (Path.place t.home dir) = some e := by
  obtain ⟨p, hp, hentry⟩ := stat_eq_ok_iff.1 h
  obtain rfl := eq_place_of_resolve hp
  exact ⟨hp, hentry⟩

theorem short_of_resolve {path : String} {p : Place} (h : t.resolve path = .ok p) :
    path.utf8ByteSize ≤ maxPathLength := by
  rw [resolve] at h
  split_ifs at h with hempty hnul hlong
  all_goals exact Nat.not_lt.1 hlong

theorem stat_eq_notFound_iff : t.stat dir = .error .notFound ↔
    t.resolve dir = .error .notFound ∨ ∃ p, t.resolve dir = .ok p ∧ t.entry? p = none := by
  rw [stat]
  cases t.resolve dir with
  | error e => simp [bind, Except.bind]
  | ok p =>
    simp only [ok_bind, reduceCtorEq, false_or, Except.ok.injEq, exists_eq_left']
    cases t.entry? p with
    | none => exact iff_of_true rfl rfl
    | some e => simp [pure, Except.pure]

/-- A name in a directory leads to its entry of that name unless the path gets too long. -/
theorem resolve_join_of_directory (h : t.stat dir = .ok .directory) (hname : IsPart name)
    (hplain : Path.PlainName name) :
    t.resolve (Path.join dir name) =
      if maxPathLength < (Path.join dir name).utf8ByteSize then .error .nameTooLong
      else .ok (Path.place t.home dir ++ [name]) := by
  obtain ⟨hp, hentry⟩ := resolve_of_stat h
  have hempty := isEmpty_of_stat h
  have hisName := hplain.isName
  simp only [Path.isName, Bool.and_eq_true, decide_eq_true_eq] at hisName
  have hlast : t.follow (Path.place t.home dir) [name.toList] =
      .ok (Path.place t.home dir ++ [name]) := by
    rw [follow, hentry]
    simp only [if_neg (not_or.2 hisName.1), if_neg hisName.2, String.ofList_toList,
      if_neg (Nat.not_lt.2 hname.short)]
    rfl
  have hnul := nul_mem_join_iff hempty hname.noSlash hname.noNul
  rw [resolve] at hp ⊢
  rw [isEmpty_join hempty hname.noSlash, startsWith_join hempty hname.noSlash]
  simp only [hempty, Bool.false_eq_true, if_false, List.contains_iff_mem, hnul] at hp ⊢
  by_cases hdirNul : '\x00' ∈ dir.toList
  · rw [if_pos hdirNul] at hp
    cases hp
  · by_cases hlong : maxPathLength < dir.utf8ByteSize
    · rw [if_neg hdirNul, if_pos hlong] at hp
      cases hp
    · rw [if_neg hdirNul, if_neg hlong] at hp
      rw [if_neg hdirNul, follow_join _ hempty hname.noSlash, hp, ok_bind, hlast]

/-- **A name in a directory leads to its entry of that name.** -/
theorem resolve_join (h : t.stat dir = .ok .directory) (hroom : HasRoom dir)
    (hname : IsPart name) (hplain : Path.PlainName name) :
    t.resolve (Path.join dir name) = .ok (Path.place t.home dir ++ [name]) := by
  rw [resolve_join_of_directory h hname hplain, if_neg (Nat.not_lt.2 (hroom.join_short hname))]

/-- Two dots below a directory lead to the directory above it. -/
theorem resolve_join_above (h : t.stat dir = .ok .directory) (hroom : HasRoom dir) :
    t.resolve (Path.join dir "..") = .ok (Path.place t.home dir).dropLast := by
  obtain ⟨hp, hentry⟩ := resolve_of_stat h
  have hdots : "..".toList = ['.', '.'] := rfl
  rw [resolve_join_eq (isEmpty_of_stat h) hroom ⟨by decide, by decide, by decide⟩, hp, ok_bind,
    follow, hentry, hdots]
  rfl

theorem exists_join_eq_append (hdir : dir.isEmpty = false) (hslash : '/' ∉ name.toList) :
    ∃ rest, Path.join dir name = dir ++ rest := by
  have hstart : name.startsWith "/" = false := by
    rw [Bool.eq_false_iff]
    intro hs
    exact hslash (List.mem_of_head? (Path.startsWith_slash_iff.1 hs))
  rw [Path.join, hstart, hdir, Bool.or_false, if_neg Bool.false_ne_true]
  split_ifs
  · exact ⟨name, rfl⟩
  · exact ⟨"/" ++ name, String.append_assoc⟩

/-- A path that leads into a directory leads through it. -/
theorem stat_of_resolve_join {p : Place} (hdir : dir.isEmpty = false) (hslash : '/' ∉ name.toList)
    (h : t.resolve (Path.join dir name) = .ok p) : t.stat dir = .ok .directory := by
  obtain ⟨rest, hrest⟩ := exists_join_eq_append hdir hslash
  have hshort : dir.utf8ByteSize ≤ maxPathLength := by
    have hlong := short_of_resolve h
    rw [hrest, String.utf8ByteSize_append] at hlong
    omega
  rw [resolve_eq_follow (isEmpty_join hdir hslash) (short_of_resolve h),
    startsWith_join hdir hslash, follow_join _ hdir hslash, hrest, String.toList_append] at h
  by_cases hnul : '\x00' ∈ dir.toList ++ rest.toList
  · rw [if_pos hnul] at h
    cases h
  rw [if_neg hnul] at h
  obtain ⟨q, hq, hlast⟩ := bind_eq_ok.1 h
  refine stat_eq_ok_iff.2 ⟨q, ?_, ?_⟩
  · rw [resolve_eq_follow hdir hshort, if_neg fun hmem => hnul (List.mem_append_left _ hmem), hq]
  · rw [follow] at hlast
    cases hentry : t.entry? q with
    | none =>
      rw [hentry] at hlast
      cases hlast
    | some e =>
      cases e with
      | directory => rfl
      | file content date =>
        rw [hentry] at hlast
        cases hlast

/-- Nothing is found below a missing directory. -/
theorem resolve_join_of_notFound (hdir : dir.isEmpty = false) (h : t.stat dir = .error .notFound)
    (hroom : HasRoom dir) (hname : IsPart name) :
    t.resolve (Path.join dir name) = .error .notFound := by
  rw [resolve_join_eq hdir hroom hname]
  rcases stat_eq_notFound_iff.1 h with hp | ⟨p, hp, hnone⟩
  · rw [hp]
    rfl
  · rw [hp, ok_bind, follow, hnone]

theorem list_of_notFound (h : t.stat dir = .error .notFound) : t.list dir = .error .notFound := by
  rw [list]
  rcases stat_eq_notFound_iff.1 h with hp | ⟨p, hp, hnone⟩
  · rw [hp]
    rfl
  · rw [hp, ok_bind, hnone]
    rfl

theorem list_of_directory (h : t.stat dir = .ok .directory) :
    t.list dir = .ok (t.children (Path.place t.home dir)) := by
  obtain ⟨hp, hentry⟩ := resolve_of_stat h
  rw [list, hp, ok_bind, hentry]
  rfl

theorem nodup_children (t : FileTree) (p : Place) : (t.children p).Nodup := by
  refine (nodup_keys t.entries).filterMap fun q q' name hq hq' => ?_
  have hplace : ∀ {q : Place}, (name ∈ if q.dropLast = p then q.getLast? else none) →
      q = p ++ [name] := by
    intro q hq
    split_ifs at hq with hp
    · rw [← hp, List.dropLast_append_getLast? name hq]
    · cases hq
  rw [hplace hq, hplace hq']

/-! ### Slashes at the end of a path -/

theorem splitOn_replicate (sep : Char) (n : ℕ) :
    Text.splitOn sep (List.replicate n sep) = List.replicate (n + 1) [] := by
  induction n with
  | zero => rfl
  | succ n ih =>
    have hcons : List.replicate (n + 1) sep = [] ++ sep :: List.replicate n sep := rfl
    rw [hcons, Text.splitOn_append_cons, ih]
    rfl

theorem follow_nils (p : Place) (n : ℕ) :
    t.follow p (List.replicate (n + 1) []) = t.follow p [[]] := by
  induction n with
  | zero => rfl
  | succ n ih => rw [List.replicate_succ, follow_nil_cons p (by simp), ih]

/-- Slashes at the end of a path ask for a directory. -/
theorem follow_slashes (p : Place) (cs : List Char) (n : ℕ) :
    t.follow p (Text.splitOn '/' (cs ++ List.replicate (n + 1) '/')) =
      t.follow p (Text.splitOn '/' cs) >>= fun q => t.follow q [[]] := by
  rw [List.replicate_succ, Text.splitOn_append_cons, splitOn_replicate, follow_append]
  exact congrArg _ (funext fun q => follow_nils q n)

theorem resolve_withoutSlashes (h : dir.utf8ByteSize ≤ maxPathLength) :
    Path.withoutSlashes dir = dir ∨
      t.resolve dir = t.resolve (Path.withoutSlashes dir) >>= fun q => t.follow q [[]] := by
  rcases Path.withoutSlashes_cases dir with heq | ⟨cs, n, hne, rfl, heq⟩
  · exact .inl heq
  · right
    rw [heq]
    have hshort : (String.ofList cs).utf8ByteSize ≤ maxPathLength := by
      rw [String.ofList_append, String.utf8ByteSize_append] at h
      omega
    have hempty : ∀ ds, (String.ofList (cs ++ ds)).isEmpty = false := by
      intro ds
      rw [Bool.eq_false_iff, ne_eq, String.isEmpty_iff, ← String.toList_eq_nil_iff,
        String.toList_ofList, List.append_eq_nil_iff, not_and]
      exact fun hnil => absurd hnil hne
    have hstart : (String.ofList (cs ++ List.replicate (n + 1) '/')).startsWith "/" =
        (String.ofList cs).startsWith "/" := by
      rw [Bool.eq_iff_iff, Path.startsWith_slash_iff, Path.startsWith_slash_iff,
        String.toList_ofList, String.toList_ofList]
      obtain ⟨c, cs, rfl⟩ := List.exists_cons_of_ne_nil hne
      rfl
    have hnul : '\x00' ∈ cs ++ List.replicate (n + 1) '/' ↔ '\x00' ∈ cs := by
      rw [List.mem_append, List.mem_replicate]
      simp
    have hempty' := hempty []
    rw [List.append_nil] at hempty'
    rw [resolve_eq_follow (hempty _) h, resolve_eq_follow hempty' hshort, hstart, Path.parts,
      Path.parts, String.toList_ofList (l := cs ++ _), String.toList_ofList (l := cs)]
    by_cases hdirNul : '\x00' ∈ cs
    · rw [if_pos (hnul.2 hdirNul), if_pos hdirNul]
      rfl
    · rw [if_neg (hnul.not.2 hdirNul), if_neg hdirNul]
      exact follow_slashes _ cs n

theorem follow_nil_eq_ok_iff {p q : Place} :
    t.follow p [[]] = .ok q ↔ t.entry? p = some .directory ∧ q = p := by
  rw [follow]
  cases t.entry? p with
  | none => simp
  | some e =>
    cases e with
    | file content date => simp
    | directory => simp [follow, eq_comm]

theorem stat_withoutSlashes (h : t.stat dir = .ok .directory) :
    t.stat (Path.withoutSlashes dir) = .ok .directory := by
  obtain ⟨hp, hentry⟩ := resolve_of_stat h
  rcases resolve_withoutSlashes (t := t) (short_of_resolve hp) with heq | heq
  · rw [heq]
    exact h
  · rw [heq] at hp
    obtain ⟨q, hq, hnil⟩ := bind_eq_ok.1 hp
    exact stat_eq_ok_iff.2 ⟨q, hq, (follow_nil_eq_ok_iff.1 hnil).1⟩

theorem directory_of_withoutSlashes (hshort : dir.utf8ByteSize ≤ maxPathLength)
    (h : t.stat (Path.withoutSlashes dir) = .ok .directory) : t.stat dir = .ok .directory := by
  obtain ⟨q, hq, hentry⟩ := stat_eq_ok_iff.1 h
  refine stat_eq_ok_iff.2 ⟨q, ?_, hentry⟩
  rcases resolve_withoutSlashes (t := t) hshort with heq | heq
  · rwa [heq] at hq
  · rw [heq, hq, ok_bind, follow_nil_eq_ok_iff]
    exact ⟨hentry, rfl⟩

theorem notFound_of_withoutSlashes (hshort : dir.utf8ByteSize ≤ maxPathLength)
    (h : t.stat (Path.withoutSlashes dir) = .error .notFound) : t.stat dir = .error .notFound := by
  rcases resolve_withoutSlashes (t := t) hshort with heq | heq
  · rwa [heq] at h
  · rw [stat_eq_notFound_iff] at h ⊢
    left
    rcases h with hp | ⟨p, hp, hnone⟩
    · rw [heq, hp]
      rfl
    · rw [heq, hp, ok_bind, follow, hnone]

/-! ### Making a directory -/

theorem short_of_stat {e : Entry} (h : t.stat dir = .ok e) : dir.utf8ByteSize ≤ maxPathLength :=
  short_of_resolve (resolve_of_stat h).1

theorem createDirectory_of_short (h : dir.utf8ByteSize ≤ maxPathLength) :
    t.createDirectory dir = t.resolve (Path.withoutSlashes dir) >>= fun p =>
      match t.entry? p with
      | none => .ok (t.put p .directory)
      | some _ => .error .exists := by
  rw [createDirectory, if_neg fun hlong => Nat.not_lt.2 h hlong.1]
  rfl

theorem isDirectory_iff : t.isDirectory dir = true ↔ t.stat dir = .ok .directory := by
  rw [isDirectory]
  split
  · next hstat => exact iff_of_true rfl hstat
  · next hstat => exact iff_of_false Bool.false_ne_true hstat

theorem createDirectory_of_directory (h : t.stat dir = .ok .directory) :
    t.createDirectory dir = .error .exists := by
  obtain ⟨p, hp, hentry⟩ := stat_eq_ok_iff.1 (stat_withoutSlashes h)
  rw [createDirectory_of_short (short_of_stat h), hp, ok_bind, hentry]

theorem createAll_of_directory (h : t.stat dir = .ok .directory) {fuel : ℕ} :
    t.createAll dir (fuel + 1) = (.ok (), t) := by
  rw [createAll, isEmpty_of_stat h, if_neg Bool.false_ne_true, createDirectory_of_directory h]
  simp only [createAll.settle, isDirectory_iff.2 h, if_true]

/-- **Making a directory that is there changes nothing.** -/
theorem createDirectories_of_directory (h : t.stat dir = .ok .directory) :
    t.createDirectories dir = (.ok (), t) := createAll_of_directory h

/-- Nothing is made for a path that leads into the directory already. -/
theorem createDirectories_of_resolve_join {p : Place} (hslash : '/' ∉ name.toList)
    (h : t.resolve (Path.join dir name) = .ok p) : t.createDirectories dir = (.ok (), t) := by
  by_cases hdir : dir.isEmpty = true
  · rw [createDirectories, createAll, if_pos hdir]
  · rw [Bool.not_eq_true] at hdir
    exact createDirectories_of_directory (stat_of_resolve_join hdir hslash h)

theorem stat_of_createDirectory {r : Except IoError FileTree} (h : t.createDirectory dir = r)
    (hr : ∀ e, r = .error e → e = .notFound) (hshort : dir.utf8ByteSize ≤ maxPathLength) :
    t.stat dir = .error .notFound := by
  refine notFound_of_withoutSlashes hshort (stat_eq_notFound_iff.2 ?_)
  subst h
  rw [createDirectory_of_short hshort] at hr
  cases hp : t.resolve (Path.withoutSlashes dir) with
  | error e =>
    rw [hp] at hr
    rw [hr e rfl]
    exact .inl rfl
  | ok p =>
    rw [hp, ok_bind] at hr
    refine .inr ⟨p, rfl, ?_⟩
    cases hentry : t.entry? p with
    | none => rfl
    | some e =>
      rw [hentry] at hr
      cases hr .exists rfl

theorem stat_of_createDirectory_eq_ok (h : t.createDirectory dir = .ok t') :
    t'.stat dir = .ok .directory := by
  have hgrown := grown_createDirectory h
  obtain ⟨hshort, hp, hnone, rfl⟩ := createDirectory_eq_ok h
  generalize Path.place t.home (Path.withoutSlashes dir) = p at hp hnone hgrown ⊢
  have hnil : p ≠ [] := ne_nil_of_not_directory (by rw [hnone]; simp)
  have hentry : FileTree.entry? (t.put p .directory) p = some .directory := by
    rw [entryAt_put hnil, if_pos rfl]
  exact directory_of_withoutSlashes hshort
    (stat_eq_ok_iff.2 ⟨p, hgrown.confined.resolve_eq_ok hp, hentry⟩)

/-- The directory was made, or it was there and nothing changed. -/
def Settles (t : FileTree) (dir : String) (t' : FileTree) : Prop :=
  t.createDirectory dir = .ok t' ∨ t.stat dir = .ok .directory ∧ t' = t

theorem settle_eq_ok_iff :
    createAll.settle t dir (t.createDirectory dir) = (.ok (), t') ↔ t.Settles dir t' := by
  constructor
  · intro h
    cases hcreate : t.createDirectory dir with
    | ok t₁ =>
      rw [hcreate] at h
      obtain rfl := (Prod.mk.inj h).2
      exact .inl hcreate
    | error e =>
      rw [hcreate, createAll.settle] at h
      split_ifs at h with hdirectory
      · exact .inr ⟨isDirectory_iff.1 hdirectory, (Prod.mk.inj h).2.symm⟩
      · cases h
  · rintro (hcreate | ⟨hstat, rfl⟩)
    · rw [hcreate]
      rfl
    · rw [createDirectory_of_directory hstat, createAll.settle, if_pos (isDirectory_iff.2 hstat)]

theorem Settles.stat (h : t.Settles dir t') : t'.stat dir = .ok .directory := by
  rcases h with hcreate | ⟨hstat, rfl⟩
  · exact stat_of_createDirectory_eq_ok hcreate
  · exact hstat

/-- **How a directory is made with those above it**: at once, or after those above it if one of them
is missing. -/
theorem createAll_eq_ok_iff {fuel : ℕ} (hdir : dir.isEmpty = false) :
    t.createAll dir (fuel + 1) = (.ok (), t') ↔ t.Settles dir t' ∨
      t.createDirectory dir = .error .notFound ∧ ∃ parent t₁, Path.parent? dir = some parent ∧
        t.createAll parent fuel = (.ok (), t₁) ∧ t₁.Settles dir t' := by
  constructor
  · intro h
    rw [createAll, hdir, if_neg Bool.false_ne_true] at h
    split at h
    · next hcreate =>
      obtain rfl := (Prod.mk.inj h).2
      exact .inl (.inl hcreate)
    · next hcreate =>
      split at h
      · cases h
      · next parent hparent =>
        split at h
        · cases h
        · next t₁ habove =>
          exact .inr ⟨hcreate, parent, t₁, hparent, habove, settle_eq_ok_iff.1 h⟩
    · next hcreate => exact .inl (settle_eq_ok_iff.1 (by rw [hcreate]; exact h))
  · rintro ((hcreate | ⟨hstat, rfl⟩) | ⟨hcreate, parent, t₁, hparent, habove, hsettles⟩)
    · rw [createAll, hdir, if_neg Bool.false_ne_true, hcreate]
    · exact createAll_of_directory hstat
    · rw [createAll, hdir, if_neg Bool.false_ne_true, hcreate]
      simp only [hparent, habove]
      exact settle_eq_ok_iff.2 hsettles

/-- **A directory can be made only if it is there, or if nothing is in its place.** -/
theorem of_createDirectories_eq_ok (h : t.createDirectories dir = (.ok (), t'))
    (hdir : dir.isEmpty = false) (hshort : dir.utf8ByteSize ≤ maxPathLength) :
    t.stat dir = .ok .directory ∨ t.stat dir = .error .notFound := by
  rcases (createAll_eq_ok_iff hdir).1 h with (hcreate | ⟨hstat, -⟩) | ⟨hcreate, -⟩
  · exact .inr (stat_of_createDirectory hcreate (fun e he => by cases he) hshort)
  · exact .inl hstat
  · exact .inr (stat_of_createDirectory hcreate (fun e he => by cases he; rfl) hshort)

theorem stat_of_createAll {fuel : ℕ} (h : t.createAll dir (fuel + 1) = (.ok (), t'))
    (hdir : dir.isEmpty = false) : t'.stat dir = .ok .directory := by
  rcases (createAll_eq_ok_iff hdir).1 h with hsettles | ⟨-, parent, t₁, -, -, hsettles⟩
  · exact hsettles.stat
  · exact hsettles.stat

/-- **A directory that was made is there.** -/
theorem stat_of_createDirectories (h : t.createDirectories dir = (.ok (), t'))
    (hdir : dir.isEmpty = false) : t'.stat dir = .ok .directory :=
  stat_of_createAll h hdir

/-! ### Every entry is in a directory -/

/-- Every entry is in a directory. -/
def Grounded (t : FileTree) : Prop :=
  ∀ p, t.entry? p ≠ none → t.entry? p.dropLast = some .directory

theorem Grounded.of_follow (h : t.Grounded) {p q : Place} {parts : List (List Char)}
    (hq : t.follow p parts = .ok q) (hp : t.entry? p.dropLast = some .directory) :
    t.entry? q.dropLast = some .directory := by
  induction parts generalizing p with
  | nil =>
    cases hq
    exact hp
  | cons part parts ih =>
    rw [follow] at hq
    split at hq
    · cases hq
    · cases hq
    · next hentry =>
      have habove := h p.dropLast (by rw [hp]; simp)
      split_ifs at hq
      · exact ih hq hp
      · exact ih hq habove
      · simp only at hq
        split_ifs at hq
        refine ih hq ?_
        rw [List.dropLast_concat]
        exact hentry

/-- A path resolves to a place in a directory. -/
theorem Grounded.of_resolve (h : t.Grounded) {path : String} {p : Place}
    (hp : t.resolve path = .ok p) : t.entry? p.dropLast = some .directory := by
  have hstart : ∀ {q : Place}, t.follow q (Path.parts path) = .ok p →
      t.entry? p.dropLast = some .directory := by
    intro q hq
    have hparts : Path.parts path ≠ [] := Text.splitOnP_ne_nil _ _
    obtain ⟨part, parts, heq⟩ := List.exists_cons_of_ne_nil hparts
    refine h.of_follow hq (h q ?_)
    intro hnone
    rw [heq, follow, hnone] at hq
    cases hq
  rw [resolve] at hp
  split_ifs at hp
  · exact hstart hp
  · exact hstart hp

theorem Grounded.createDirectory (h : t.Grounded) (hcreate : t.createDirectory dir = .ok t') :
    t'.Grounded := by
  obtain ⟨-, hp, hnone, rfl⟩ := createDirectory_eq_ok hcreate
  generalize Path.place t.home (Path.withoutSlashes dir) = p at hp hnone ⊢
  have hnil : p ≠ [] := ne_nil_of_not_directory (by rw [hnone]; simp)
  intro q hq
  rw [entryAt_put hnil] at hq ⊢
  by_cases hqp : q = p
  · rw [hqp, h.of_resolve hp, ite_self]
  · rw [if_neg hqp] at hq
    rw [h q hq, ite_self]

theorem Grounded.createDirectories (h : t.Grounded) (path : String) :
    (t.createDirectories path).2.Grounded :=
  createAll_preserves t.home (fun ht _ hcreate => ht.createDirectory hcreate)
    Set.Subset.rfl h _

/-! ### Writing into a directory -/

/-- **A text that is written beside a file and moved to it changes only that file.** -/
theorem replaceText_join {a b : String} (h : t.stat dir = .ok .directory) (hroom : HasRoom dir)
    (ha : IsPart a) (ha' : Path.PlainName a) (hb : IsPart b) (hb' : Path.PlainName b)
    (hbeside : t.entry? (Path.place t.home dir ++ [a]) = none)
    (htarget : t.entry? (Path.place t.home dir ++ [b]) ≠ some .directory) (text : String) :
    ∃ t', t.replaceText (Path.join dir a) (Path.join dir b) text = (.ok (), t') ∧
      Confined ∅ {Path.place t.home dir ++ [b]} t t' ∧
      t'.entry? (Path.place t.home dir ++ [b]) = some (.file (.text text) t.now) := by
  set p := Path.place t.home dir with hp
  have hput := confined_put_file (p := p ++ [a]) (by rw [hbeside]; simp) (.text text) t.now
  have hentry := entryAt_put (t := t) (p := p ++ [a]) (by simp) (.file (.text text) t.now)
  have hwrite : t.writeText (Path.join dir a) text =
      .ok (t.put (p ++ [a]) (.file (.text text) t.now)) := by
    rw [writeText, resolve_join h hroom ha ha', ok_bind, ← hp, hbeside]
    rfl
  generalize t.put (p ++ [a]) (.file (.text text) t.now) = t₁ at hput hentry hwrite
  have hrename : t₁.rename (Path.join dir a) (Path.join dir b) =
      .ok ((t₁.drop (p ++ [a])).put (p ++ [b]) (.file (.text text) t.now)) := by
    have htarget' : t₁.entry? (p ++ [b]) ≠ some .directory := by
      rw [hentry]
      split_ifs
      · simp
      · exact htarget
    have hresolve := hput.resolve_eq_ok (resolve_join h hroom hb hb')
    rw [rename, hput.resolve_eq_ok (resolve_join h hroom ha ha'), ok_bind, ← hp, hentry, if_pos rfl]
    simp only [hresolve, ok_bind, ← hp]
    rfl
  refine ⟨(t₁.drop (p ++ [a])).put (p ++ [b]) (.file (.text text) t.now), ?_, ?_, ?_⟩
  · rw [replaceText, hwrite]
    simp only [hrename]
  · refine confined_of_forall_ne htarget hput.home hput.now fun q hq => ?_
    rw [entryAt_put (by simp), if_neg hq, entryAt_drop (by simp), hentry]
    split_ifs with hqa
    · rw [hqa, hbeside]
    · rfl
  · rw [entryAt_put (by simp), if_pos rfl]

/-- **Nothing can be written in the place of the directory above.** -/
theorem replaceText_above (h : t.stat dir = .ok .directory) (hroom : HasRoom dir)
    (habove : t.entry? (Path.place t.home dir).dropLast = some .directory) (target text : String) :
    t.replaceText (Path.join dir "..") target text = (.error .isDirectory, t) := by
  have hwrite : t.writeText (Path.join dir "..") text = .error .isDirectory := by
    rw [writeText, resolve_join_above h hroom, ok_bind, habove]
    rfl
  rw [replaceText, hwrite]

end ContentBlocking.FileTree
