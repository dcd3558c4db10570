import ContentBlocking.Proofs.Rule.Store

/-!
# Stores in memory

A store in memory has no disk to fail it: all operations on it go smoothly, and it can always be
listed.
-/

namespace ContentBlocking.RuleStore

variable {s s' : RuleStore} {t t' : FileTree} {id source : String} {rules : List Rule}

/-! ### The kind of store stays -/

theorem dir?_remove (s : RuleStore) (id : String) (t : FileTree) :
    (s.remove id t).2.1.dir? = s.dir? := by
  cases s with
  | directory dir => rfl
  | memory lists n =>
    rw [remove]
    split <;> rfl

theorem dir?_compile (s : RuleStore) (id source : String) (t : FileTree) :
    (s.compile id source t).2.1.dir? = s.dir? := by
  cases s with
  | directory dir => rfl
  | memory lists n =>
    rw [compile]
    split <;> rfl

/-! ### Nothing fails -/

theorem tidy_of_memory (h : s.dir? = none) (home : Place) : s.Tidy home := by
  intro p hp
  rw [inside, h] at hp
  exact absurd hp (Set.notMem_empty p)

theorem listable_of_memory (h : s.dir? = none) (t : FileTree) : s.Listable t := by
  cases s with
  | directory dir => cases h
  | memory lists n => trivial

theorem exists_identifiers_of_memory (h : s.dir? = none) (t : FileTree) :
    ∃ ids, s.identifiers t = .ok ids := by
  cases s with
  | directory dir => cases h
  | memory lists n => exact ⟨lists.keys, rfl⟩

theorem smooth_remove_of_memory (h : s.dir? = none) (id : String) (t : FileTree) :
    Smooth (s.remove id t).1 := by
  cases s with
  | directory dir => cases h
  | memory lists n =>
    intro id' cause heq
    rw [remove] at heq
    split at heq <;> cases heq

theorem smooth_compile_of_memory (h : s.dir? = none) (id source : String) (t : FileTree) :
    Smooth (s.compile id source t).1 := by
  cases s with
  | directory dir => cases h
  | memory lists n =>
    intro id' cause heq
    rw [compile] at heq
    cases hsource : RuleList.ofText source <;>
      (simp only [compileSource, hsource] at heq; cases heq)

/-! ### Compilation into memory -/

theorem compile_memory_eq_ok {lists : Dict (List Rule)} {n : ℕ}
    (h : (memory lists n).compile id source t = (.ok rules, s', t')) :
    RuleList.ofText source = .ok rules ∧ s' = memory (lists.insert id rules) (n + 1) ∧ t' = t := by
  rw [compile] at h
  split at h
  · next hsource =>
    obtain ⟨rfl, rfl, rfl⟩ := by simpa using h
    exact ⟨compileSource_eq_ok_iff.1 hsource, rfl, rfl⟩
  · simp at h

theorem compile_memory_of_ok (hrules : RuleList.ofText source = .ok rules)
    (lists : Dict (List Rule)) (n : ℕ) (id : String) (t : FileTree) :
    (memory lists n).compile id source t =
      (.ok rules, memory (lists.insert id rules) (n + 1), t) := by
  rw [compile, compileSource_eq_ok_iff.2 hrules]

end ContentBlocking.RuleStore
