import ContentBlocking.Compiler
import ContentBlocking.Proofs.Rule.Store

/-!
# The bundle and the store of a compiler

For each list, the store of a compiler either lacks it or holds it with some rules (`Compiler.Has`).
Operations on the store leave the bundle alone if the two share no files
(`Compiler.Touches.serves`), and so do those on the markers.
-/

namespace ContentBlocking

open FileTree (Confined)

/-- What a bundled text and the rule of an allow-list compile to, if they do. -/
def Blocklist.compiled? (l : Blocklist) (bundled : String) (allowRule : Option Json.Value) :
    Option (List Rule) :=
  match RuleList.synthesize bundled allowRule l.isCosmetic with
  | .ok source => (RuleList.ofText source).toOption
  | .error _ => none

theorem Blocklist.compiled?_eq_some_iff {l : Blocklist} {bundled : String}
    {allowRule : Option Json.Value} {rules : List Rule} :
    l.compiled? bundled allowRule = some rules ↔
      ∃ source, RuleList.synthesize bundled allowRule l.isCosmetic = .ok source ∧
        RuleList.ofText source = .ok rules := by
  rw [compiled?]
  cases RuleList.synthesize bundled allowRule l.isCosmetic with
  | ok source => simp [toOption_eq_some]
  | error e => simp

theorem Blocklist.listName_filename (l : Blocklist) : RuleStore.ListName l.filename where
  noSlash := by cases l <;> decide
  ne_empty := by cases l <;> decide
  ne_dot := by cases l <;> decide

theorem Blocklist.admits (l : Blocklist) (s : RuleStore) : s.Admits l.filename :=
  fun _ => l.listName_filename.toIsId

/-! ### Bundles -/

namespace Bundle

/-- The place of a resource in the directory of a bundle. -/
def placesOf (b : Bundle) (home : Place) (name : String) : Set Place :=
  match b with
  | directory root => {Path.place home (Path.join root (filename name))}
  | memory _ => ∅

theorem placesOf_directory {name : String} (h : RuleStore.IsId name) (root : String)
    (home : Place) : (directory root).placesOf home name =
      {Path.place home root ++ [name ++ "." ++ RuleStore.extension]} := by
  have hname : filename name = name ++ "." ++ RuleStore.extension := by
    rw [filename, String.append_assoc]
    rfl
  rw [placesOf, hname, Path.place_join (RuleStore.plainName_fileName h)]

variable {b : Bundle} {t t' : FileTree} {made written : Set Place} {name text : String}

theorem read_directory_eq_ok {root : String} :
    (directory root).read t name = .ok text ↔
      t.readText (Path.join root (filename name)) = .ok text := by
  rw [read]
  cases t.readText (Path.join root (filename name)) with
  | ok text' => simp
  | error e => cases e <;> simp

theorem read_of_confined (h : Confined made written t t')
    (hp : ∀ p ∈ b.placesOf t.home name, p ∉ written) (hr : b.read t name = .ok text) :
    b.read t' name = .ok text := by
  cases b with
  | directory root =>
    exact read_directory_eq_ok.2 (h.readText_eq_ok (hp _ rfl) (read_directory_eq_ok.1 hr))
  | memory resources => exact hr

/-- The date of a resource that can be read is known and stays. -/
theorem modified_of_confined (h : Confined made written t t')
    (hp : ∀ p ∈ b.placesOf t.home name, p ∉ written) (hr : b.read t name = .ok text) :
    b.modified? t' name = b.modified? t name := by
  cases b with
  | directory root =>
    obtain ⟨p, date, hresolve, hentry⟩ :=
      FileTree.readText_eq_ok_iff.1 (read_directory_eq_ok.1 hr)
    have hdate : t.modified (Path.join root (filename name)) = .ok date :=
      bind_eq_ok.2 ⟨_, FileTree.stat_eq_ok_iff.2 ⟨p, hresolve, hentry⟩, rfl⟩
    rw [modified?, modified?, hdate, h.modified_eq_ok (hp _ rfl) hdate]
  | memory resources => rfl

end Bundle

/-! ### Markers -/

namespace MarkerStore

/-- The places on the way to the file of markers. -/
def way (s : MarkerStore) (home : Place) : Set Place :=
  match s with
  | file path _ => Path.way home path
  | memory _ => ∅

/-- The places that a change of markers writes to. -/
def written (s : MarkerStore) (home : Place) : Set Place :=
  match s with
  | file path _ => FileTree.writtenBy home (Path.withExtension path "tmp") path
  | memory _ => ∅

/-- Markers are persisted by making the directories above their file and then replacing it. -/
theorem exists_grown_persist (path : String) (markers : Dict Nat) (t : FileTree) :
    ∃ t₁, FileTree.Grown (Path.way t.home path) t t₁ ∧
      Confined ∅ (FileTree.writtenBy t.home (Path.withExtension path "tmp") path) t₁
        (persist path markers t).2 := by
  have hmake : FileTree.Grown (Path.way t.home path) t
      (t.createDirectories ((Path.parent? path).getD "")).2 := by
    cases hparent : Path.parent? path with
    | none => exact .refl _ t
    | some parent =>
      exact (FileTree.grown_createDirectories t parent).mono (Path.way_subset_of_parent? hparent)
  rw [persist]
  generalize t.createDirectories ((Path.parent? path).getD "") = made at hmake ⊢
  obtain ⟨r, t₁⟩ := made
  refine ⟨t₁, hmake, ?_⟩
  cases r with
  | error e => exact .refl _ _ t₁
  | ok u =>
    have hwrite := FileTree.confined_replaceText t₁ (Path.withExtension path "tmp") path
      (textOfMarkers markers)
    rwa [hmake.home] at hwrite

theorem confined_persist (path : String) (markers : Dict Nat) (t : FileTree) :
    Confined (Path.way t.home path) (FileTree.writtenBy t.home (Path.withExtension path "tmp") path)
      t (persist path markers t).2 := by
  obtain ⟨t₁, hmake, hwrite⟩ := exists_grown_persist path markers t
  exact (hmake.confined.mono Set.Subset.rfl (Set.empty_subset _)).trans
    (hwrite.mono (Set.empty_subset _) Set.Subset.rfl)

/-- The disk after a date was set for a marker. -/
theorem setDate_disk (s : MarkerStore) (key : String) (date : Date) (t : FileTree) :
    (s.setDate key date t).2.2 = t ∨ ∃ path markers markers', s = file path markers ∧
      (s.setDate key date t).2.2 = (persist path markers' t).2 := by
  cases s with
  | file path markers =>
    rw [setDate]
    cases hmillis : date.millis? with
    | none => exact .inl rfl
    | some n =>
      refine .inr ⟨path, markers, markers.insert key n, rfl, ?_⟩
      simp only
      split <;> next heq => rw [heq]
  | memory markers => exact .inl rfl

/-- **Setting a marker changes its file only**, also if that fails. -/
theorem confined_setDate (s : MarkerStore) (key : String) (date : Date) (t : FileTree) :
    Confined (s.way t.home) (s.written t.home) t (s.setDate key date t).2.2 := by
  rcases s.setDate_disk key date t with heq | ⟨path, markers, markers', rfl, heq⟩
  · rw [heq]
    exact .refl _ _ t
  · rw [heq]
    exact confined_persist path markers' t

/-- Where no marker is written, nothing changes but that a directory may be made. -/
theorem entry_setDate (s : MarkerStore) (key : String) (date : Date) (t : FileTree) {p : Place}
    (hp : p ∉ s.written t.home) :
    FileTree.entry? (s.setDate key date t).2.2 p = t.entry? p ∨
      FileTree.IsNewDirectory t (s.setDate key date t).2.2 p := by
  rcases s.setDate_disk key date t with heq | ⟨path, markers, markers', rfl, heq⟩
  · rw [heq]
    exact .inl rfl
  · obtain ⟨t₁, hmake, hwrite⟩ := exists_grown_persist path markers' t
    rw [heq, FileTree.IsNewDirectory, hwrite.entry_eq (Set.notMem_empty p) hp]
    exact (hmake.entry p).imp_right And.right

theorem way_setDate (s : MarkerStore) (key : String) (date : Date) (t : FileTree) (home : Place) :
    (s.setDate key date t).2.1.way home = s.way home := by
  cases s with
  | file path markers =>
    rw [setDate]
    split
    · rfl
    · simp only
      split <;> rfl
  | memory markers => rfl

theorem written_setDate (s : MarkerStore) (key : String) (date : Date) (t : FileTree)
    (home : Place) : (s.setDate key date t).2.1.written home = s.written home := by
  cases s with
  | file path markers =>
    rw [setDate]
    split
    · rfl
    · simp only
      split <;> rfl
  | memory markers => rfl

end MarkerStore

namespace Compiler

variable {c c' c'' : Compiler} {ids ids' : Set String} {texts : Blocklist → String}

/-! ### Contents -/

/-- The store holds a list with some rules, or lacks it. -/
def Has (c : Compiler) (l : Blocklist) : Option (List Rule) → Prop
  | some rules => c.store.Holds c.disk l.filename rules
  | none => c.store.Lacks c.disk l.filename

theorem Has.unique {l : Blocklist} {o o' : Option (List Rule)} (h : c.Has l o) (h' : c.Has l o') :
    o = o' := by
  cases o with
  | none =>
    cases o' with
    | none => rfl
    | some rules => exact absurd h h'.not_lacks
  | some rules =>
    cases o' with
    | none => exact absurd h' h.not_lacks
    | some rules' => exact congrArg some (RuleStore.Holds.unique h h')

/-- The store can be listed and has no list. -/
def StartsEmpty (c : Compiler) : Prop :=
  c.store.Listable c.disk ∧ c.store.identifiers c.disk = .ok []

theorem has_none_of_startsEmpty (h : c.StartsEmpty) (l : Blocklist) : c.Has l none := by
  by_contra hpresent
  have hmem := (RuleStore.mem_identifiers_iff (l.admits _) h.1 h.2).2 hpresent
  cases hmem

/-- The bundle has a text for each list. -/
def Serves (c : Compiler) (texts : Blocklist → String) : Prop :=
  ∀ l : Blocklist, c.bundle.read c.disk l.filename = .ok (texts l)

/-- No file of the bundle, the store and the markers is shared. -/
structure Separate (c : Compiler) : Prop where
  tidy : c.store.Tidy c.disk.home
  bundle_store : ∀ (l : Blocklist), ∀ p ∈ c.bundle.placesOf c.disk.home l.filename,
    p ∉ c.store.inside c.disk.home
  bundle_markers : ∀ (l : Blocklist), ∀ p ∈ c.bundle.placesOf c.disk.home l.filename,
    p ∉ c.markers.written c.disk.home
  store_markers : ∀ (l : Blocklist), ∀ p ∈ c.store.placesOf c.disk.home l.filename,
    p ∉ c.markers.way c.disk.home ∧ p ∉ c.markers.written c.disk.home

/-! ### Changes elsewhere on the disk -/

section Elsewhere

variable {made written : Set Place}

theorem has_of_confined (c' : Compiler) (hstore : c'.store = c.store)
    (h : Confined made written c.disk c'.disk)
    {l : Blocklist} (hmade : ∀ p ∈ c.store.placesOf c.disk.home l.filename, p ∉ made)
    (hwritten : ∀ p ∈ c.store.placesOf c.disk.home l.filename, p ∉ written)
    {o : Option (List Rule)} (ho : c.Has l o) : c'.Has l o := by
  cases o with
  | none =>
    rw [Has, hstore]
    exact RuleStore.Lacks.of_confined h hmade hwritten ho
  | some rules =>
    rw [Has, hstore]
    exact RuleStore.Holds.of_confined h hwritten ho

theorem serves_of_confined (c' : Compiler) (hbundle : c'.bundle = c.bundle)
    (h : Confined made written c.disk c'.disk)
    (hwritten : ∀ (l : Blocklist), ∀ p ∈ c.bundle.placesOf c.disk.home l.filename, p ∉ written)
    (ht : c.Serves texts) : c'.Serves texts := by
  intro l
  rw [hbundle]
  exact Bundle.read_of_confined h (hwritten l) (ht l)

theorem newest_of_confined (c' : Compiler) (hbundle : c'.bundle = c.bundle)
    (h : Confined made written c.disk c'.disk)
    (hwritten : ∀ (l : Blocklist), ∀ p ∈ c.bundle.placesOf c.disk.home l.filename, p ∉ written)
    (ht : c.Serves texts) : c'.newestBundleDate? = c.newestBundleDate? := by
  have hdates : (fun l : Blocklist => c.bundle.modified? c'.disk l.filename) =
      fun l => c.bundle.modified? c.disk l.filename := by
    funext l
    exact Bundle.modified_of_confined h (hwritten l) (ht l)
  rw [newestBundleDate?, newestBundleDate?, hbundle, hdates]

end Elsewhere

/-! ### Operations on the store -/

/-- An operation changes nothing but the lists in `ids` in the store. -/
structure Touches (ids : Set String) (c c' : Compiler) : Prop where
  bundle : c'.bundle = c.bundle
  markers : c'.markers = c.markers
  store : RuleStore.Touches ids c.store c.disk c'.store c'.disk

namespace Touches

protected theorem refl (ids : Set String) (c : Compiler) : Touches ids c c :=
  ⟨rfl, rfl, .refl _ _ _⟩

protected theorem trans (h : Touches ids c c') (h' : Touches ids c' c'') : Touches ids c c'' :=
  ⟨h'.bundle.trans h.bundle, h'.markers.trans h.markers, h.store.trans h'.store⟩

theorem mono (h : Touches ids c c') (hids : ids ⊆ ids') : Touches ids' c c' :=
  ⟨h.bundle, h.markers, h.store.mono hids⟩

theorem home (h : Touches ids c c') : c'.disk.home = c.disk.home := h.store.confined.home

theorem has (h : Touches ids c c') {l : Blocklist} (hl : l.filename ∉ ids)
    {o : Option (List Rule)} (ho : c.Has l o) : c'.Has l o := by
  cases o with
  | none => exact h.store.lacks hl (l.admits _) ho
  | some rules => exact h.store.holds hl (l.admits _) ho

theorem has_none_iff (h : Touches ids c c') {l : Blocklist} (hl : l.filename ∉ ids) :
    c'.Has l none ↔ c.Has l none := by
  refine ⟨fun hlacks => ?_, h.has hl⟩
  by_contra hpresent
  exact h.store.present hl (l.admits _) hpresent hlacks

theorem separate (h : Touches ids c c') (hs : c.Separate) : c'.Separate where
  tidy := h.store.tidy hs.tidy
  bundle_store l p hp := by
    rw [h.bundle, h.home] at hp
    rw [RuleStore.inside_eq_of_dir? h.store.dir, h.home]
    exact hs.bundle_store l p hp
  bundle_markers l p hp := by
    rw [h.bundle, h.home] at hp
    rw [h.markers, h.home]
    exact hs.bundle_markers l p hp
  store_markers l p hp := by
    rw [RuleStore.placesOf, h.store.dir, h.home] at hp
    rw [h.markers, h.home]
    exact hs.store_markers l p hp

theorem serves (h : Touches ids c c') (hs : c.Separate) (ht : c.Serves texts) : c'.Serves texts :=
  serves_of_confined c' h.bundle h.store.confined hs.bundle_store ht

theorem newest (h : Touches ids c c') (hs : c.Separate) (ht : c.Serves texts) :
    c'.newestBundleDate? = c.newestBundleDate? :=
  newest_of_confined c' h.bundle h.store.confined hs.bundle_store ht

end Touches

/-! ### Markers -/

theorem confined_mark (c : Compiler) (date : Date) :
    Confined (c.markers.way c.disk.home) (c.markers.written c.disk.home) c.disk
      (c.mark date).disk :=
  c.markers.confined_setDate bundleDateKey date c.disk

@[simp] theorem store_mark (c : Compiler) (date : Date) : (c.mark date).store = c.store := rfl

@[simp] theorem bundle_mark (c : Compiler) (date : Date) : (c.mark date).bundle = c.bundle := rfl

theorem has_mark (hs : c.Separate) (date : Date) {l : Blocklist} {o : Option (List Rule)}
    (ho : c.Has l o) : (c.mark date).Has l o :=
  has_of_confined _ (c.store_mark date) (c.confined_mark date)
    (fun p hp => (hs.store_markers l p hp).1) (fun p hp => (hs.store_markers l p hp).2) ho

theorem has_none_mark_iff (hs : c.Separate) (date : Date) {l : Blocklist} :
    (c.mark date).Has l none ↔ c.Has l none := by
  refine ⟨fun hlacks => ?_, has_mark hs date⟩
  by_contra hpresent
  exact RuleStore.not_lacks_of_confined (c.confined_mark date)
    (fun p hp => (hs.store_markers l p hp).2) hpresent hlacks

theorem separate_mark (hs : c.Separate) (date : Date) : (c.mark date).Separate := by
  have hhome := (c.confined_mark date).home
  constructor
  · rw [hhome]
    exact hs.tidy
  · rw [hhome]
    exact hs.bundle_store
  · simp only [hhome]
    simp only [mark, MarkerStore.written_setDate]
    exact hs.bundle_markers
  · simp only [hhome]
    simp only [mark, MarkerStore.written_setDate, MarkerStore.way_setDate]
    exact hs.store_markers

theorem serves_mark (hs : c.Separate) (ht : c.Serves texts) (date : Date) :
    (c.mark date).Serves texts :=
  serves_of_confined _ (c.bundle_mark date) (c.confined_mark date) hs.bundle_markers ht

theorem newest_mark (hs : c.Separate) (ht : c.Serves texts) (date : Date) :
    (c.mark date).newestBundleDate? = c.newestBundleDate? :=
  newest_of_confined _ (c.bundle_mark date) (c.confined_mark date) hs.bundle_markers ht

end Compiler

end ContentBlocking
