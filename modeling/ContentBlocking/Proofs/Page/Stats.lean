import ContentBlocking.Page.Stats
import Mathlib.Data.List.Basic

/-!
# Statistics of some hits

The statistics of a page are those of a list of hits, in any order: a number for each category, the
number of all hits (`PageStats.total_ofHits`), and the distinct trackers among them
(`PageStats.mem_trackers_ofHits`, `PageStats.nodup_trackers_ofHits`).
-/

namespace ContentBlocking

theorem Category.index_injective {c d : Category} (h : c.index = d.index) : c = d := by
  revert h
  cases c <;> cases d <;> decide

theorem Category.index_lt (c : Category) : c.index < Category.all.length :=
  List.idxOf_lt_length_of_mem c.mem_all

namespace PageStats

variable {s : PageStats} {t : Tracker} {ts : List Tracker} {c : Category}

/-! ### The order of trackers -/

theorem before_iff {s t : Tracker} :
    before s t = true ↔ s.category.index < t.category.index ∨
      s.category = t.category ∧ s.id < t.id := by
  simp [before]

theorem before_irrefl (t : Tracker) : ¬before t t = true := by
  rw [before_iff]
  rintro (h | ⟨-, h⟩)
  · exact Nat.lt_irrefl _ h
  · exact String.lt_irrefl _ h

theorem before_trans {r s t : Tracker} (h : before r s = true) (h' : before s t = true) :
    before r t = true := by
  rw [before_iff] at h h' ⊢
  rcases h with h | ⟨hc, hid⟩ <;> rcases h' with h' | ⟨hc', hid'⟩
  · exact .inl (Nat.lt_trans h h')
  · exact .inl (hc' ▸ h)
  · exact .inl (hc ▸ h')
  · exact .inr ⟨hc.trans hc', String.lt_trans hid hid'⟩

theorem before_of_not {s t : Tracker} (hne : t ≠ s) (h : ¬before t s = true) :
    before s t = true := by
  rw [before_iff, not_or, Nat.not_lt] at h
  rw [before_iff]
  by_cases hc : s.category = t.category
  · refine .inr ⟨hc, ?_⟩
    have hle : s.id ≤ t.id := String.not_lt.1 fun hid => h.2 ⟨hc.symm, hid⟩
    refine String.not_le.1 fun hle' => hne ?_
    have hid := String.le_antisymm hle hle'
    cases s
    cases t
    simp_all
  · have hindex : s.category.index ≠ t.category.index := fun heq =>
      hc (Category.index_injective heq)
    exact .inl (Nat.lt_of_le_of_ne h.1 hindex)

/-! ### Distinct trackers -/

theorem mem_insertTracker {s : Tracker} : s ∈ insertTracker t ts ↔ s = t ∨ s ∈ ts := by
  induction ts with
  | nil => simp [insertTracker]
  | cons r ts ih =>
    rw [insertTracker]
    split_ifs with heq hbefore
    · subst heq
      simp
    · simp
    · rw [List.mem_cons, ih, List.mem_cons]
      tauto

/-- The trackers stay in their order, and so each of them is listed once. -/
theorem pairwise_insertTracker (h : ts.Pairwise fun r s => before r s = true) (t : Tracker) :
    (insertTracker t ts).Pairwise fun r s => before r s = true := by
  induction ts with
  | nil => exact List.pairwise_singleton _ t
  | cons r ts ih =>
    obtain ⟨hr, hts⟩ := List.pairwise_cons.1 h
    rw [insertTracker]
    split_ifs with heq hbefore
    · exact h
    · -- the new tracker is before the first one, and so before all
      refine List.pairwise_cons.2 ⟨fun s hs => ?_, h⟩
      rcases List.mem_cons.1 hs with rfl | hs
      · exact hbefore
      · exact before_trans hbefore (hr s hs)
    · refine List.pairwise_cons.2 ⟨fun s hs => ?_, ih hts⟩
      rcases mem_insertTracker.1 hs with rfl | hs
      · exact before_of_not heq hbefore
      · exact hr s hs

/-! ### Counts -/

theorem sum_modify (counts : List Nat) (i : Nat) (h : i < counts.length) :
    (counts.modify i (· + 1)).foldr (· + ·) 0 = counts.foldr (· + ·) 0 + 1 := by
  induction counts generalizing i with
  | nil => cases h
  | cons n counts ih =>
    cases i with
    | zero =>
      simp only [List.modify_zero_cons, List.foldr_cons]
      omega
    | succ i =>
      have hrest := ih i (Nat.lt_of_succ_lt_succ h)
      simp only [List.modify_succ_cons, List.foldr_cons, hrest]
      omega

theorem count_update (h : s.counts.length = Category.all.length) (t : Tracker) (c : Category) :
    (s.update t).count c = s.count c + if t.category = c then 1 else 0 := by
  have hlt : c.index < s.counts.length := h ▸ c.index_lt
  rw [count, count, update, List.getD_eq_getElem?_getD, List.getElem?_modify,
    List.getD_eq_getElem?_getD, List.getElem?_eq_getElem hlt]
  by_cases heq : t.category = c
  · simp [heq]
  · have hindex : t.category.index ≠ c.index := fun hindex => heq (Category.index_injective hindex)
    simp [heq, hindex]

/-! ### Lists of hits -/

/-- The statistics of some hits. -/
def ofHits (ts : List Tracker) : PageStats := ts.foldl update empty

/-- What all statistics have that come from hits. -/
structure WellFormed (s : PageStats) : Prop where
  length : s.counts.length = Category.all.length
  ordered : s.trackers.Pairwise fun r t => before r t = true

theorem wellFormed_empty : empty.WellFormed := ⟨rfl, List.Pairwise.nil⟩

theorem WellFormed.update (h : s.WellFormed) (t : Tracker) : (s.update t).WellFormed where
  length := by rw [PageStats.update, List.length_modify, h.length]
  ordered := pairwise_insertTracker h.ordered t

theorem WellFormed.foldl (h : s.WellFormed) (ts : List Tracker) :
    (ts.foldl PageStats.update s).WellFormed := by
  induction ts generalizing s with
  | nil => exact h
  | cons t ts ih => exact ih (h.update t)

theorem wellFormed_ofHits (ts : List Tracker) : (ofHits ts).WellFormed := wellFormed_empty.foldl ts

theorem count_foldl (h : s.WellFormed) (ts : List Tracker) (c : Category) :
    (ts.foldl update s).count c = s.count c + ts.countP (·.category = c) := by
  induction ts generalizing s with
  | nil => rfl
  | cons t ts ih =>
    rw [List.foldl_cons, ih (h.update t), count_update h.length, List.countP_cons]
    by_cases heq : t.category = c
    · simp only [heq, if_true, decide_true]
      omega
    · simp [heq]

theorem total_foldl (h : s.WellFormed) (ts : List Tracker) :
    (ts.foldl update s).total = s.total + ts.length := by
  induction ts generalizing s with
  | nil => rfl
  | cons t ts ih =>
    have hone : (s.update t).total = s.total + 1 :=
      sum_modify s.counts t.category.index (h.length ▸ t.category.index_lt)
    rw [List.foldl_cons, ih (h.update t), hone, List.length_cons]
    omega

theorem mem_trackers_foldl {ts : List Tracker} :
    t ∈ (ts.foldl update s).trackers ↔ t ∈ s.trackers ∨ t ∈ ts := by
  induction ts generalizing s with
  | nil => simp
  | cons r ts ih =>
    rw [List.foldl_cons, ih, update, mem_insertTracker, List.mem_cons]
    tauto

theorem count_empty (c : Category) : empty.count c = 0 := by
  cases c <;> rfl

/-- The number of a category is that of its hits. -/
theorem count_ofHits (ts : List Tracker) (c : Category) :
    (ofHits ts).count c = ts.countP (·.category = c) := by
  rw [ofHits, count_foldl wellFormed_empty, count_empty, Nat.zero_add]

/-- The total is the number of hits. -/
theorem total_ofHits (ts : List Tracker) : (ofHits ts).total = ts.length := by
  have hempty : empty.total = 0 := rfl
  rw [ofHits, total_foldl wellFormed_empty, hempty, Nat.zero_add]

/-- The trackers are those of the hits. -/
theorem mem_trackers_ofHits : t ∈ (ofHits ts).trackers ↔ t ∈ ts := by
  have hempty : empty.trackers = [] := rfl
  rw [ofHits, mem_trackers_foldl, hempty]
  simp

/-- No tracker is listed twice. -/
theorem nodup_trackers_ofHits (ts : List Tracker) : (ofHits ts).trackers.Nodup := by
  refine (wellFormed_ofHits ts).ordered.imp ?_
  rintro r t h rfl
  exact before_irrefl r h

/-! ### Numbers determine the total -/

theorem index_getElem_all {i : Nat} (h : i < Category.all.length) : Category.all[i].index = i :=
  List.Nodup.idxOf_getElem (by decide) i h

theorem counts_eq_map (h : s.WellFormed) : s.counts = Category.all.map s.count := by
  refine List.ext_getElem ?_ fun i hi hi' => ?_
  · rw [h.length, List.length_map]
  · have hi'' : i < Category.all.length := h.length ▸ hi
    rw [List.getElem_map, count, index_getElem_all hi'', List.getD_eq_getElem?_getD,
      List.getElem?_eq_getElem hi]
    rfl

/-- Lists with equal numbers of hits in each category are of one length. -/
theorem length_eq_of_countP {ts ts' : List Tracker}
    (h : ∀ c : Category, ts.countP (·.category = c) = ts'.countP (·.category = c)) :
    ts.length = ts'.length := by
  have hcounts : (ofHits ts).counts = (ofHits ts').counts := by
    rw [counts_eq_map (wellFormed_ofHits ts), counts_eq_map (wellFormed_ofHits ts')]
    refine List.map_congr_left fun c _ => ?_
    rw [count_ofHits, count_ofHits, h]
  rw [← total_ofHits, ← total_ofHits, total, total, hcounts]

end PageStats

end ContentBlocking
