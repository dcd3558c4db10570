import ContentBlocking.Proofs.Page.Stats
import Mathlib

/-!
# What statistics keep of the hits

The statistics of a page keep two things of its hits, the number of hits in each category and which
trackers they are, and forget the rest (`PageStats.ofHits_eq_iff`).  So the order of the hits does
not matter.  `PageStats.ofHits_summary` says what can be read off the statistics, and how the
numbers and the trackers hang together.
-/

namespace ContentBlocking.PageStats

variable {s : PageStats} {ts ts' : List Tracker} {c : Category} {n : ℕ}

/-! ### Numbers and trackers -/

theorem counts_ofHits (ts : List Tracker) :
    (ofHits ts).counts = Category.all.map fun c => ts.countP (·.category = c) := by
  rw [counts_eq_map (wellFormed_ofHits ts)]
  exact List.map_congr_left fun c _ => count_ofHits ts c

/-- Trackers in their order are determined by which they are. -/
theorem eq_of_ordered {l l' : List Tracker} (hl : l.Pairwise fun r t => before r t = true)
    (hl' : l'.Pairwise fun r t => before r t = true) (h : ∀ t, t ∈ l ↔ t ∈ l') : l = l' := by
  have hnodup : ∀ {l : List Tracker}, l.Pairwise (fun r t => before r t = true) → l.Nodup := by
    refine fun hl => hl.imp ?_
    rintro r t hrt rfl
    exact before_irrefl r hrt
  have hperm : l.Perm l' := (List.perm_ext_iff_of_nodup (hnodup hl) (hnodup hl')).2 h
  refine hperm.eq_of_pairwise (fun r t _ _ hrt htr => ?_) hl hl'
  exact absurd (before_trans hrt htr) (before_irrefl r)

/-- **Hits have the same statistics exactly if they have the same numbers in each category and the
same trackers among them.** -/
theorem ofHits_eq_iff : ofHits ts = ofHits ts' ↔
    (∀ c : Category, ts.countP (·.category = c) = ts'.countP (·.category = c)) ∧
      ∀ t, t ∈ ts ↔ t ∈ ts' := by
  constructor
  · intro h
    refine ⟨fun c => ?_, fun t => ?_⟩
    · rw [← count_ofHits, ← count_ofHits, h]
    · have hmem := @mem_trackers_ofHits t ts
      rw [h, mem_trackers_ofHits] at hmem
      exact hmem.symm
  · rintro ⟨hcount, hmem⟩
    have hcounts : (ofHits ts).counts = (ofHits ts').counts := by
      rw [counts_ofHits, counts_ofHits]
      exact List.map_congr_left fun c _ => hcount c
    have htrackers : (ofHits ts).trackers = (ofHits ts').trackers := by
      refine eq_of_ordered (wellFormed_ofHits ts).ordered (wellFormed_ofHits ts').ordered ?_
      intro t
      rw [mem_trackers_ofHits, mem_trackers_ofHits, hmem]
    cases h : ofHits ts
    cases h' : ofHits ts'
    simp_all

/-- The order of the hits does not matter. -/
theorem ofHits_perm (h : ts.Perm ts') : ofHits ts = ofHits ts' :=
  ofHits_eq_iff.2 ⟨fun _ => h.countP_eq _, fun _ => h.mem_iff⟩

/-- A category has hits exactly if it has a tracker. -/
theorem count_ofHits_pos_iff : 0 < (ofHits ts).count c ↔
    ∃ t ∈ (ofHits ts).trackers, t.category = c := by
  rw [count_ofHits, List.countP_pos_iff]
  simp only [mem_trackers_ofHits, decide_eq_true_eq]

/-- A category has at least as many hits as trackers: each of its trackers hit once or more. -/
theorem countP_trackers_le (ts : List Tracker) (c : Category) :
    (ofHits ts).trackers.countP (·.category = c) ≤ (ofHits ts).count c := by
  have hsub : (ofHits ts).trackers ⊆ ts := fun t ht => mem_trackers_ofHits.1 ht
  rw [count_ofHits]
  exact ((nodup_trackers_ofHits ts).subperm hsub).countP_le _

/-! ### Categories with hits -/

theorem mem_byCategory_iff : (c, n) ∈ s.byCategory ↔ n = s.count c ∧ 0 < n := by
  rw [byCategory, List.mem_filter, List.mem_map]
  simp only [Prod.mk.injEq, decide_eq_true_eq]
  constructor
  · rintro ⟨⟨c, -, rfl, rfl⟩, hpos⟩
    exact ⟨rfl, hpos⟩
  · rintro ⟨rfl, hpos⟩
    exact ⟨⟨c, c.mem_all, rfl, rfl⟩, hpos⟩

/-- The categories are listed in the order of their indices. -/
theorem pairwise_byCategory (s : PageStats) :
    s.byCategory.Pairwise fun e f => e.1.index < f.1.index := by
  have hall : Category.all.Pairwise fun c d => c.index < d.index := by decide
  have hentries : (Category.all.map fun c => (c, s.count c)).Pairwise
      fun e f => e.1.index < f.1.index := List.pairwise_map.2 hall
  exact hentries.sublist List.filter_sublist

/-- Entries without hits add nothing. -/
theorem sum_filter_pos (es : List (Category × ℕ)) :
    ((es.filter fun e => 0 < e.2).map Prod.snd).sum = (es.map Prod.snd).sum := by
  induction es with
  | nil => rfl
  | cons e es ih =>
    rw [List.filter_cons]
    split_ifs with hpos
    · rw [List.map_cons, List.map_cons, List.sum_cons, List.sum_cons, ih]
    · have hzero : e.2 = 0 := by simpa using hpos
      rw [List.map_cons, List.sum_cons, hzero, Nat.zero_add, ih]

/-- The numbers that are listed make up the total. -/
theorem WellFormed.sum_byCategory (h : s.WellFormed) :
    (s.byCategory.map Prod.snd).sum = s.total := by
  have hmap : (Category.all.map fun c => (c, s.count c)).map Prod.snd = s.counts := by
    rw [counts_eq_map h, List.map_map]
    rfl
  rw [byCategory, sum_filter_pos, hmap]
  rfl

/-! ### The summary -/

/-- **Statistics are a summary of their hits.**  Each category has the number of its hits, and their
total is the number of all, so that fewer than `2 ^ 64` hits make no number of more than 64 bits;
the trackers are those that hit, each of them once.  A category has hits exactly if it has trackers,
and never more trackers than hits.  The categories that are listed are those with hits, in their
order and with their numbers, which add up to the total.  Hits in another order have the same
statistics. -/
theorem ofHits_summary (ts : List Tracker) :
    (∀ c, (ofHits ts).count c = ts.countP (·.category = c) ∧ (ofHits ts).count c ≤ ts.length) ∧
      (ofHits ts).total = ts.length ∧
      ((∀ t, t ∈ (ofHits ts).trackers ↔ t ∈ ts) ∧ (ofHits ts).trackers.Nodup) ∧
      (∀ c, (0 < (ofHits ts).count c ↔ ∃ t ∈ (ofHits ts).trackers, t.category = c) ∧
        (ofHits ts).trackers.countP (·.category = c) ≤ (ofHits ts).count c) ∧
      ((∀ c n, (c, n) ∈ (ofHits ts).byCategory ↔ n = (ofHits ts).count c ∧ 0 < n) ∧
        ((ofHits ts).byCategory.Pairwise fun e f => e.1.index < f.1.index) ∧
        ((ofHits ts).byCategory.map Prod.snd).sum = (ofHits ts).total) ∧
      ∀ ts', ts'.Perm ts → ofHits ts' = ofHits ts := by
  refine ⟨fun c => ⟨count_ofHits ts c, ?_⟩, total_ofHits ts, ⟨fun t => mem_trackers_ofHits,
    nodup_trackers_ofHits ts⟩, fun c => ⟨count_ofHits_pos_iff, countP_trackers_le ts c⟩,
    ⟨fun c n => mem_byCategory_iff, pairwise_byCategory _, ?_⟩, fun ts' => ofHits_perm⟩
  · rw [count_ofHits]
    exact List.countP_le_length
  · exact (wellFormed_ofHits ts).sum_byCategory

/-- A tracker that hits twice is one tracker with two hits, wherever the other hits fall. -/
theorem ofHits_summary_of_repeated :
    ([⟨.social, "s"⟩, ⟨.cdn, "c"⟩, ⟨.social, "s"⟩] : List Tracker).Perm
        [⟨.social, "s"⟩, ⟨.social, "s"⟩, ⟨.cdn, "c"⟩] ∧
      ofHits [⟨.social, "s"⟩, ⟨.cdn, "c"⟩, ⟨.social, "s"⟩] =
        ofHits [⟨.social, "s"⟩, ⟨.social, "s"⟩, ⟨.cdn, "c"⟩] ∧
      (ofHits [⟨.social, "s"⟩, ⟨.social, "s"⟩, ⟨.cdn, "c"⟩]).count .social = 2 ∧
      (.social, 2) ∈ (ofHits [⟨.social, "s"⟩, ⟨.social, "s"⟩, ⟨.cdn, "c"⟩]).byCategory := by
  have hperm : ([⟨.social, "s"⟩, ⟨.cdn, "c"⟩, ⟨.social, "s"⟩] : List Tracker).Perm
      [⟨.social, "s"⟩, ⟨.social, "s"⟩, ⟨.cdn, "c"⟩] := by decide
  obtain ⟨hcount, -, -, -, ⟨hmem, -, -⟩, horder⟩ :=
    ofHits_summary [⟨.social, "s"⟩, ⟨.social, "s"⟩, ⟨.cdn, "c"⟩]
  have htwo := (hcount .social).1
  exact ⟨hperm, horder _ hperm, htwo, (hmem _ _).2 ⟨htwo.symm, by decide⟩⟩

end ContentBlocking.PageStats
