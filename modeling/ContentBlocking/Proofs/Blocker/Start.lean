import ContentBlocking.Blocker
import ContentBlocking.Proofs.Success

/-!
# The start of a blocker

A start loads the public suffix list and the tracker database before its compiler's pass, and
nothing after that changes what is known about a URL (`Blocker.classify_of_start`).  The allow-lists
stay as they were.
-/

namespace ContentBlocking.Blocker

variable {b b' : Blocker} {report : CompileReport}

/-- Only the suffix list is loaded. -/
theorem exists_loadSuffixes_eq (b : Blocker) :
    ∃ suffixes, b.loadSuffixes = { b with suffixes := suffixes } := by
  rw [loadSuffixes]
  split
  · exact ⟨_, rfl⟩
  · split
    · exact ⟨_, rfl⟩
    · split <;> exact ⟨_, rfl⟩

theorem compiler_loadSuffixes (b : Blocker) : b.loadSuffixes.compiler = b.compiler := by
  obtain ⟨suffixes, h⟩ := b.exists_loadSuffixes_eq
  rw [h]

theorem allowLists_loadSuffixes (b : Blocker) : b.loadSuffixes.allowLists = b.allowLists := by
  obtain ⟨suffixes, h⟩ := b.exists_loadSuffixes_eq
  rw [h]

theorem events_loadSuffixes (b : Blocker) : b.loadSuffixes.events = b.events := by
  obtain ⟨suffixes, h⟩ := b.exists_loadSuffixes_eq
  rw [h]

theorem config_loadSuffixes (b : Blocker) : b.loadSuffixes.config = b.config := by
  obtain ⟨suffixes, h⟩ := b.exists_loadSuffixes_eq
  rw [h]

theorem database_loadSuffixes (b : Blocker) : b.loadSuffixes.database = b.database := by
  obtain ⟨suffixes, h⟩ := b.exists_loadSuffixes_eq
  rw [h]

/-- The suffix list is of no account for the load of the database. -/
theorem database_loadSuffixes_loadDatabase (b : Blocker) :
    b.loadSuffixes.loadDatabase.database = b.loadDatabase.database := by
  rw [loadDatabase, loadDatabase, database_loadSuffixes, config_loadSuffixes, disk, disk,
    compiler_loadSuffixes]

/-- A start that is not stopped by a broken list is the run of its compiler between the loads and
the events. -/
theorem start_eq_ok : b.start = .ok (report, b') ↔
    ∃ c, b.compiler.startup b.allowLists.rules = .ok (report, c) ∧
      b' = ({ b.loadSuffixes.loadDatabase with
        compiler := c, setupCompleted := true }.emit .setupCompleted).emit .setupRequired := by
  have hcompiler : b.loadSuffixes.loadDatabase.compiler = b.compiler := b.compiler_loadSuffixes
  have hlists : b.loadSuffixes.loadDatabase.allowLists = b.allowLists := b.allowLists_loadSuffixes
  rw [start, bind_eq_ok]
  simp only [startCompiler, bind_eq_ok, hcompiler, hlists, pure_eq_ok_iff]
  constructor
  · rintro ⟨-, ⟨⟨r, c⟩, hrun, rfl⟩, heq⟩
    obtain ⟨rfl, rfl⟩ := Prod.mk.inj heq
    exact ⟨c, hrun, rfl⟩
  · rintro ⟨c, hrun, rfl⟩
    exact ⟨_, ⟨(report, c), hrun, rfl⟩, rfl⟩

theorem allowLists_of_start (h : b.start = .ok (report, b')) : b'.allowLists = b.allowLists := by
  obtain ⟨c, -, rfl⟩ := start_eq_ok.1 h
  exact b.allowLists_loadSuffixes

/-- **A start decides what is known about a URL by the two loads.** -/
theorem classify_of_start (h : b.start = .ok (report, b')) (url : String) :
    b'.classify url = b.loadSuffixes.loadDatabase.classify url := by
  obtain ⟨c, -, rfl⟩ := start_eq_ok.1 h
  rfl

end ContentBlocking.Blocker
