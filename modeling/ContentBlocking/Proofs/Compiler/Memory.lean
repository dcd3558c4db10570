import ContentBlocking.Proofs.Compiler.Passes
import ContentBlocking.Proofs.Rule.Memory

/-!
# Compilers with stores in memory

A store in memory has no disk to fail it: all passes of its compiler go smoothly
(`Compiler.startsSmoothly_of_memory`, `Compiler.invalidatesSmoothly_of_memory`).
-/

namespace ContentBlocking

namespace Compiler

variable {c : Compiler} {rules : AllowRules}

/-! ### The kind of store stays -/

theorem dir?_remove (c : Compiler) (id : String) : (c.remove id).2.store.dir? = c.store.dir? := by
  rw [remove_snd]
  exact c.store.dir?_remove id c.disk

theorem dir?_removeEach (c : Compiler) (ids : List String) :
    (c.removeEach ids).2.store.dir? = c.store.dir? := by
  induction ids generalizing c with
  | nil => rfl
  | cons id ids ih => exact (ih (c.remove id).2).trans (c.dir?_remove id)

theorem dir?_purgeByDate (c : Compiler) : c.purgeByDate.2.store.dir? = c.store.dir? := by
  rcases purgeByDate_eq c with ⟨-, heq⟩ | ⟨newest, -, -, heq⟩
  · rw [heq]
  · rw [heq]
    exact c.dir?_removeEach c.installedIds

theorem dir?_purgeByName (c : Compiler) : c.purgeByName.2.store.dir? = c.store.dir? := by
  rcases purgeByName_eq c with ⟨-, heq⟩ | heq
  · rw [heq]
  · rw [heq]
    exact c.dir?_removeEach c.installedIds

theorem dir?_compileList {l : Blocklist} {done : Bool} {c' : Compiler}
    (h : c.compileList rules l = .ok (done, c')) : c'.store.dir? = c.store.dir? := by
  obtain ⟨source, hsource, -⟩ := bind_eq_ok.1 h
  rw [compileList_eq hsource] at h
  obtain ⟨-, rfl⟩ := Prod.mk.inj (Except.ok.inj h)
  exact c.store.dir?_compile l.filename source c.disk

theorem dir?_compileEach {lists compiled : List Blocklist} {c' : Compiler}
    (h : c.compileEach rules lists = .ok (compiled, c')) : c'.store.dir? = c.store.dir? := by
  induction lists generalizing c compiled with
  | nil =>
    obtain ⟨-, rfl⟩ := Prod.mk.inj (Except.ok.inj h)
    rfl
  | cons l lists ih =>
    obtain ⟨⟨done, c₁⟩, hone, h⟩ := bind_eq_ok.1 h
    obtain ⟨⟨compiled', c₂⟩, hrest, h⟩ := bind_eq_ok.1 h
    obtain ⟨-, rfl⟩ := Prod.mk.inj (Except.ok.inj h)
    exact (ih hrest).trans (dir?_compileList hone)

theorem dir?_compileMissing {report : CompileReport} {c' : Compiler}
    (h : c.compileMissing rules = .ok (report, c')) : c'.store.dir? = c.store.dir? := by
  obtain ⟨⟨compiled, c₁⟩, hcompile, h⟩ := bind_eq_ok.1 h
  obtain ⟨-, rfl⟩ := Prod.mk.inj (Except.ok.inj h)
  exact dir?_compileEach hcompile

theorem dir?_startup {report : CompileReport} {c' : Compiler}
    (h : c.startup rules = .ok (report, c')) : c'.store.dir? = c.store.dir? := by
  have hmissing := dir?_compileMissing h
  rw [hmissing, dir?_purgeByName, dir?_purgeByDate]

theorem dir?_invalidate {lists : List Blocklist} {report : CompileReport} {c' : Compiler}
    (h : c.invalidate lists rules = .ok (report, c')) : c'.store.dir? = c.store.dir? := by
  have hmissing := dir?_compileMissing h
  rw [hmissing, dir?_removeEach]

/-! ### Nothing fails -/

theorem removesSmoothly_of_memory (h : c.store.dir? = none) (ids : List String) :
    c.RemovesSmoothly ids := by
  induction ids generalizing c with
  | nil => trivial
  | cons id ids ih =>
    exact ⟨RuleStore.smooth_remove_of_memory h id c.disk, ih ((c.dir?_remove id).trans h)⟩

theorem purgesSmoothly_of_memory (h : c.store.dir? = none) : c.PurgesSmoothly :=
  ⟨RuleStore.listable_of_memory h c.disk, removesSmoothly_of_memory h c.installedIds⟩

theorem compilesSmoothly_of_memory (h : c.store.dir? = none) (rules : AllowRules)
    (lists : List Blocklist) : c.CompilesSmoothly rules lists := by
  induction lists generalizing c with
  | nil => trivial
  | cons l lists ih =>
    refine ⟨fun source _ => RuleStore.smooth_compile_of_memory h l.filename source c.disk, ?_⟩
    exact fun done c' hcompile => ih ((dir?_compileList hcompile).trans h)

theorem compilesMissingSmoothly_of_memory (h : c.store.dir? = none) (rules : AllowRules) :
    c.CompilesMissingSmoothly rules :=
  ⟨RuleStore.listable_of_memory h c.disk, compilesSmoothly_of_memory h rules c.missing⟩

theorem startsSmoothly_of_memory (h : c.store.dir? = none) (rules : AllowRules) :
    c.StartsSmoothly rules := by
  have hdate := (dir?_purgeByDate c).trans h
  have hname := (dir?_purgeByName c.purgeByDate.2).trans hdate
  exact ⟨fun _ => purgesSmoothly_of_memory h, fun _ => purgesSmoothly_of_memory hdate,
    compilesMissingSmoothly_of_memory hname rules⟩

theorem invalidatesSmoothly_of_memory (h : c.store.dir? = none) (lists : List Blocklist)
    (rules : AllowRules) : c.InvalidatesSmoothly lists rules := by
  have hremoved := (c.dir?_removeEach (lists.map Blocklist.filename)).trans h
  exact ⟨RuleStore.listable_of_memory h c.disk, removesSmoothly_of_memory h _,
    compilesMissingSmoothly_of_memory hremoved rules⟩

/-! ### Nothing is shared -/

/-- A store in memory shares no file with the markers or with the bundle. -/
theorem separate_of_memory (h : c.store.dir? = none)
    (hmarkers : ∀ (l : Blocklist), ∀ p ∈ c.bundle.placesOf c.disk.home l.filename,
      p ∉ c.markers.written c.disk.home) : c.Separate where
  tidy := RuleStore.tidy_of_memory h c.disk.home
  bundle_store l p _ := by
    rw [RuleStore.inside, h]
    exact Set.notMem_empty p
  bundle_markers := hmarkers
  store_markers l p hp := by
    rw [RuleStore.placesOf, h] at hp
    exact absurd hp (Set.notMem_empty p)

/-! ### A bundle of one text -/

/-- A compiler in memory with one text and one date for all lists of its bundle. -/
def uniform (text : String) (date : Date) : Compiler :=
  { bundle := .memory (.ofList (Blocklist.all.map fun l => (l.filename, (text, date))))
    store := .memory ∅ 0
    markers := .memory ∅
    disk := .empty [] date }

theorem separate_uniform (text : String) (date : Date) : (uniform text date).Separate :=
  separate_of_memory rfl fun _ p hp => absurd hp (Set.notMem_empty p)

theorem startsEmpty_uniform (text : String) (date : Date) : (uniform text date).StartsEmpty :=
  ⟨trivial, rfl⟩

theorem serves_uniform (text : String) (date : Date) :
    (uniform text date).Serves fun _ => text := by
  intro l
  cases l <;> rfl

theorem readable_empty : Readable fun _ => "[]" := by
  have hread : RuleList.readItems.run "[]" = .ok [] := by rfl
  exact fun _ => ⟨[], hread⟩

theorem isSome_compiled?_empty (l : Blocklist) : (l.compiled? "[]" none).isSome = true := by
  have hitems : RuleList.readItems.run "[]" = .ok [] := by rfl
  have htext : RuleList.ofText "[]" = .ok [] := by rfl
  have hcompiled := RuleList.ofText_synthesize hitems htext .empty l.isCosmetic
  have hrule : AllowList.Domains.empty.rule? = none := rfl
  rw [hrule] at hcompiled
  rw [Blocklist.compiled?_eq_some_iff.2 hcompiled]
  rfl

end Compiler

end ContentBlocking
