import ContentBlocking.Blocker
import ContentBlocking.Proofs.Compiler.Passes

/-!
# Edits of allow-lists

An edit changes one allow-list and its file.  The file is never one of the bundle or of the store
(`Blocker.edited_of_edit`), whatever becomes of the write.
-/

namespace ContentBlocking

open FileTree (Confined)

/-! ### Files of allow-lists -/

namespace AllowList.Store

variable {s : Store} {t : FileTree}

/-- The places that an edit of an allow-list writes to. -/
def written (s : Store) (home : Place) : Set Place :=
  s.path.elim ∅ fun path => FileTree.writtenBy home (Path.withExtension path "tmp") path

/-- Saving an allow-list changes its file only, also if that fails. -/
theorem confined_save (s : Store) (t : FileTree) : Confined ∅ (s.written t.home) t (s.save t) := by
  obtain ⟨kind, path, domains⟩ := s
  rw [save, persist, written]
  cases path with
  | none => exact .refl _ _ t
  | some path =>
    simp only [Option.elim]
    by_cases hempty : domains.isEmpty = true
    · rw [if_pos hempty]
      have hremove : ∀ {t'}, t.removeFile path = .ok t' →
          Confined ∅ (FileTree.writtenBy t.home (Path.withExtension path "tmp") path) t t' :=
        fun h => (FileTree.confined_removeFile h).mono (Set.Subset.refl _) fun p hp => .inr hp
      split
      · next t' heq => exact hremove heq
      · exact .refl _ _ t
      · exact .refl _ _ t
    · rw [if_neg hempty]
      exact FileTree.confined_replaceText t _ path _

end AllowList.Store

namespace AllowList.Kind

/-- The names of the files that an edit of an allow-list writes to. -/
def fileNames (k : Kind) : List String := [k.filename ++ "." ++ "tmp", k.filename]

theorem replaceableName_filename (k : Kind) : Path.ReplaceableName k.filename where
  noSlash := by cases k <;> decide
  isName := by cases k <;> decide
  ends := by
    intro c hc
    cases k <;> (obtain rfl := Option.some.inj hc; exact ⟨by decide, by decide⟩)
  stem := by cases k <;> decide

theorem stem_filename (k : Kind) : Path.stem k.filename = k.filename := by
  cases k <;> decide

/-- An edit writes to files of known names in the directory of documents. -/
theorem written_openAt (k : Kind) {s : Store} {documents : String}
    (hpath : s.path = some (Path.join documents k.filename)) (home : Place) :
    ∀ p ∈ s.written home, ∃ name ∈ k.fileNames, p = Path.place home documents ++ [name] := by
  have hbeside := Path.withExtension_join k.replaceableName_filename "tmp" (by decide)
    (by rw [stem_filename]; exact k.replaceableName_filename.noSlash) documents
  rw [stem_filename] at hbeside
  have hplain : Path.PlainName (k.filename ++ "." ++ "tmp") := by
    constructor <;> (cases k <;> decide)
  intro p hp
  rw [Store.written, hpath] at hp
  simp only [Option.elim, hbeside] at hp
  rcases hp with hp | hp
  · exact ⟨_, List.mem_cons_self, hp.trans (Path.place_join hplain documents)⟩
  · exact ⟨_, List.mem_cons_of_mem _ List.mem_cons_self,
      hp.trans (Path.place_join k.replaceableName_filename.toPlainName documents)⟩

end AllowList.Kind

/-- No file of an allow-list has the name of a list. -/
theorem filename_ne_of_mem_fileNames (l : Blocklist) (k : AllowList.Kind) {name : String}
    (h : name ∈ k.fileNames) : l.filename ++ "." ++ RuleStore.extension ≠ name := by
  revert name
  cases l <;> cases k <;> decide

namespace Blocker

variable {b b' : Blocker} {k : AllowList.Kind} {enabled : Bool} {url : String}

/-- The allow-lists of each kind are those of the documents. -/
def Documented (b : Blocker) (documents : String) : Prop :=
  ∀ k, (b.allowLists.get k).kind = k ∧
    (b.allowLists.get k).path = some (Path.join documents k.filename)

theorem documented_create (config : Config) (compiler : Compiler) (suffixes : Option SuffixList) :
    (create config compiler suffixes).Documented config.documents := by
  intro k
  cases k <;> exact ⟨rfl, rfl⟩

theorem edit_some {ls : List Blocklist} (h : b.edit k enabled url = (some ls, b')) :
    ls = (b.allowLists.get k).kind.dependents ∧
      ∃ s, s.kind = (b.allowLists.get k).kind ∧ s.path = (b.allowLists.get k).path ∧
        b'.allowLists = b.allowLists.set k s ∧
        b'.compiler = { b.compiler with disk := s.save b.compiler.disk } := by
  rw [edit, AllowList.Store.setAllowListed, AllowList.Store.edit] at h
  cases hhost : Url.normalizedHost? url with
  | none => simp [hhost] at h
  | some host =>
    simp only [hhost, Option.map_some, Prod.mk.injEq, Option.some.injEq] at h
    obtain ⟨rfl, rfl⟩ := h
    refine ⟨rfl, { b.allowLists.get k with
      domains := if enabled then (b.allowLists.get k).domains.insert host
        else (b.allowLists.get k).domains.erase host }, rfl, rfl, rfl, rfl⟩

theorem edit_none (h : b.edit k enabled url = (none, b')) : b' = b := by
  rw [edit, AllowList.Store.setAllowListed, AllowList.Store.edit] at h
  cases hhost : Url.normalizedHost? url with
  | none =>
    simp only [hhost, Option.map_none, Prod.mk.injEq, true_and] at h
    rw [← h]
    cases k <;> rfl
  | some host => simp [hhost] at h

theorem rules_set_of_ne (a : AllowLists) (s : AllowList.Store) {j : AllowList.Kind} (h : j ≠ k) :
    (a.set k s).rules j = a.rules j := by
  rw [AllowLists.rules, AllowLists.rules, AllowLists.get_set_of_ne a s h]

/-- An edit leaves the bundle, the stored lists and the other allow-lists alone. -/
structure Edited (documents : String) (k : AllowList.Kind) (b b' : Blocker) : Prop where
  documented : b'.Documented documents
  rules : ∀ {j}, j ≠ k → b'.allowLists.rules j = b.allowLists.rules j
  separate : b.compiler.Separate → b'.compiler.Separate
  serves : ∀ {texts}, b.compiler.Serves texts → b'.compiler.Serves texts
  has : ∀ {l o}, b.compiler.Has l o → b'.compiler.Has l o

/-- The last name of a place tells the files of an allow-list from those of lists. -/
theorem place_not_written {s : AllowList.Store} {documents : String}
    (hpath : s.path = some (Path.join documents k.filename)) (home q : Place) (l : Blocklist) :
    q ++ [l.filename ++ "." ++ RuleStore.extension] ∉ s.written home := by
  intro hq
  obtain ⟨name, hname, heq⟩ := k.written_openAt hpath home _ hq
  have hlast := congrArg List.getLast? heq
  rw [List.getLast?_concat, List.getLast?_concat] at hlast
  exact filename_ne_of_mem_fileNames l k hname (Option.some.inj hlast)

theorem bundle_not_written {s : AllowList.Store} {documents : String}
    (hpath : s.path = some (Path.join documents k.filename)) (bundle : Bundle) (home : Place)
    (l : Blocklist) : ∀ p ∈ bundle.placesOf home l.filename, p ∉ s.written home := by
  intro p hp
  cases bundle with
  | directory root =>
    rw [Bundle.placesOf_directory l.listName_filename.toIsId] at hp
    rw [Set.mem_singleton_iff.1 hp]
    exact place_not_written hpath home _ l
  | memory resources => exact absurd hp (Set.notMem_empty p)

theorem store_not_written {s : AllowList.Store} {documents : String}
    (hpath : s.path = some (Path.join documents k.filename)) (store : RuleStore) (home : Place)
    (l : Blocklist) : ∀ p ∈ store.placesOf home l.filename, p ∉ s.written home := by
  intro p hp
  cases store with
  | directory dir =>
    rw [Set.mem_singleton_iff.1 hp, RuleStore.place_filePath l.listName_filename.toIsId]
    exact place_not_written hpath home _ l
  | memory stored n => exact absurd hp (Set.notMem_empty p)

theorem edited_of_edit {documents : String} {ls : List Blocklist} (hdoc : b.Documented documents)
    (h : b.edit k enabled url = (some ls, b')) : Edited documents k b b' := by
  obtain ⟨-, s, hkind, hpath, hlists, hcompiler⟩ := edit_some h
  rw [(hdoc k).1] at hkind
  rw [(hdoc k).2] at hpath
  have hconfined :
      Confined ∅ (s.written b.compiler.disk.home) b.compiler.disk b'.compiler.disk := by
    rw [hcompiler]
    exact s.confined_save b.compiler.disk
  have hbundle : b'.compiler.bundle = b.compiler.bundle := by rw [hcompiler]
  have hstore : b'.compiler.store = b.compiler.store := by rw [hcompiler]
  have hmarkers : b'.compiler.markers = b.compiler.markers := by rw [hcompiler]
  refine ⟨?_, ?_, ?_, ?_, ?_⟩
  · intro j
    rw [hlists]
    by_cases hj : j = k
    · subst hj
      rw [AllowLists.get_set_self]
      exact ⟨hkind, hpath⟩
    · rw [AllowLists.get_set_of_ne _ s hj]
      exact hdoc j
  · intro j hj
    rw [hlists]
    exact rules_set_of_ne _ s hj
  · intro hs
    constructor
    · rw [hstore, hconfined.home]
      exact hs.tidy
    · rw [hbundle, hstore, hconfined.home]
      exact hs.bundle_store
    · rw [hbundle, hmarkers, hconfined.home]
      exact hs.bundle_markers
    · rw [hstore, hmarkers, hconfined.home]
      exact hs.store_markers
  · intro texts ht
    exact Compiler.serves_of_confined _ hbundle hconfined (bundle_not_written hpath _ _) ht
  · intro l o ho
    exact Compiler.has_of_confined _ hstore hconfined (fun p _ => Set.notMem_empty p)
      (store_not_written hpath _ _ l) ho

end Blocker

end ContentBlocking
