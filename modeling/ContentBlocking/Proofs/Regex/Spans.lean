import ContentBlocking.Regex.Search
import Mathlib.Data.List.Infix
import Mathlib.Logic.Relation

/-!
# What a search finds

`Regex.Spans` says where a match of a regular expression begins and ends, one clause for each way to
build one, without marks and without a bound on repetitions.  `Regex.isMatch_iff` ties the search to
it: a regular expression matches in a text if and only if it spans some part of the text.

A step on marks `Marks.Follows` a relation on positions if it takes the marks to where the relation
leads.  Most clauses are compositions of such steps.  For a repetition the search stops after as
many rounds as there are positions: a longer chain of rounds rests at some position, and a rest can
be left out or prolonged (`Regex.rounds_iff_of_le`).
-/

namespace ContentBlocking.Regex

/-! ### Matches -/

/-- Exactly `n` steps of a relation. -/
def Rounds (R : ℕ → ℕ → Prop) : ℕ → ℕ → ℕ → Prop
  | 0, i, j => j = i
  | n + 1, i, j => ∃ k, R i k ∧ Rounds R n k j

/-- The character before a position. -/
def charBefore? (text : List Char) : ℕ → Option Char
  | 0 => none
  | i + 1 => text[i]?

mutual

/-- A match begins at the position `i` of a text and ends at the position `j`. -/
def Spans (text : List Char) : Regex → ℕ → ℕ → Prop
  | empty, i, j => j = i
  | literal cs, i, j => cs <+: text.drop i ∧ j = i + cs.length
  | set _ s, i, j => (∃ c, text[i]? = some c ∧ s.contains c = true) ∧ j = i + 1
  | look l, i, j => l.holds (charBefore? text i) text[i]? = true ∧ j = i
  | repetition least most _ sub, i, j =>
    ∃ n, least ≤ n ∧ (∀ m ∈ most, n ≤ max least m) ∧ Rounds (Spans text sub) n i j
  | group _ sub, i, j => Spans text sub i j
  | concat rs, i, j => SpansInRow text rs i j
  | alternation rs, i, j => SpansEither text rs i j

/-- Matches of several regular expressions follow each other from `i` to `j`. -/
def SpansInRow (text : List Char) : List Regex → ℕ → ℕ → Prop
  | [], i, j => j = i
  | r :: rs, i, j => ∃ k, Spans text r i k ∧ SpansInRow text rs k j

/-- A match of one of several regular expressions begins at `i` and ends at `j`. -/
def SpansEither (text : List Char) : List Regex → ℕ → ℕ → Prop
  | [], _, _ => False
  | r :: rs, i, j => Spans text r i j ∨ SpansEither text rs i j

end

/-! ### Clauses -/

section Clauses

variable {text : List Char} {i j : ℕ}

theorem spans_literal_iff {cs : List Char} :
    Spans text (literal cs) i j ↔ cs <+: text.drop i ∧ j = i + cs.length := Iff.rfl

theorem spans_set_iff {bytes : Bool} {s : CharSet} :
    Spans text (set bytes s) i j ↔ (∃ c, text[i]? = some c ∧ s.contains c = true) ∧ j = i + 1 :=
  Iff.rfl

theorem spans_look_iff {l : Look} :
    Spans text (look l) i j ↔ l.holds (charBefore? text i) text[i]? = true ∧ j = i := Iff.rfl

theorem spans_repetition_iff {least : ℕ} {most : Option ℕ} {greedy : Bool} {sub : Regex} :
    Spans text (repetition least most greedy sub) i j ↔
      ∃ n, least ≤ n ∧ (∀ m ∈ most, n ≤ max least m) ∧ Rounds (Spans text sub) n i j := Iff.rfl

theorem spans_group_iff {number : ℕ} {sub : Regex} :
    Spans text (group number sub) i j ↔ Spans text sub i j := Iff.rfl

theorem spans_concat_iff {rs : List Regex} :
    Spans text (concat rs) i j ↔ SpansInRow text rs i j := Iff.rfl

theorem spansInRow_nil_iff : SpansInRow text [] i j ↔ j = i := Iff.rfl

theorem spansInRow_cons_iff {r : Regex} {rs : List Regex} :
    SpansInRow text (r :: rs) i j ↔ ∃ k, Spans text r i k ∧ SpansInRow text rs k j := Iff.rfl

end Clauses

/-! ### Rounds -/

section Rounds

variable {R : ℕ → ℕ → Prop} {limit : ℕ}

theorem rounds_add {m n i j : ℕ} :
    Rounds R (m + n) i j ↔ ∃ k, Rounds R m i k ∧ Rounds R n k j := by
  induction m generalizing i with
  | zero => simp [Rounds]
  | succ m ih =>
    rw [Nat.add_right_comm, Rounds]
    simp only [ih, Rounds]
    constructor
    · rintro ⟨k, hk, l, hl, hj⟩
      exact ⟨l, ⟨k, hk, hl⟩, hj⟩
    · rintro ⟨l, ⟨k, hk, hl⟩, hj⟩
      exact ⟨k, hk, l, hl, hj⟩

/-- A relation on the positions up to a limit that never leads backward. -/
def Advances (limit : ℕ) (R : ℕ → ℕ → Prop) : Prop :=
  ∀ ⦃i j⦄, i ≤ limit → R i j → i ≤ j ∧ j ≤ limit

theorem Advances.rounds (h : Advances limit R) (n : ℕ) : Advances limit (Rounds R n) := by
  induction n with
  | zero =>
    rintro i j hi rfl
    exact ⟨le_rfl, hi⟩
  | succ n ih =>
    rintro i j hi ⟨k, hk, hj⟩
    have hstep := h hi hk
    have hrest := ih hstep.2 hj
    exact ⟨hstep.1.trans hrest.1, hrest.2⟩

/-- As many rounds as there are positions rest at one of them. -/
theorem exists_rest (h : Advances limit R) {n i j : ℕ} (hi : i ≤ limit) (hn : limit < i + n)
    (hrounds : Rounds R n i j) :
    ∃ m k, m < n ∧ Rounds R m i k ∧ R k k ∧ Rounds R (n - (m + 1)) k j := by
  induction n generalizing i with
  | zero => omega
  | succ n ih =>
    obtain ⟨k, hk, hj⟩ := hrounds
    by_cases hrest : k = i
    · subst hrest
      exact ⟨0, k, by omega, rfl, hk, by simpa using hj⟩
    · have hstep := h hi hk
      obtain ⟨m, l, hm, hl, hll, hj'⟩ := ih hstep.2 (by omega) hj
      refine ⟨m + 1, l, by omega, ⟨k, hk, hl⟩, hll, ?_⟩
      rwa [Nat.add_sub_add_right]

theorem rounds_succ_iff (h : Advances limit R) {n i j : ℕ} (hi : i ≤ limit) (hn : limit < n) :
    Rounds R (n + 1) i j ↔ Rounds R n i j := by
  constructor
  · -- one round of a rest is left out
    intro hrounds
    obtain ⟨m, k, hm, hk, -, hj⟩ := exists_rest h hi (by omega) hrounds
    have hsum : n = m + (n + 1 - (m + 1)) := by omega
    rw [hsum]
    exact rounds_add.2 ⟨k, hk, hj⟩
  · -- one round more is made at a rest
    intro hrounds
    obtain ⟨m, k, hm, hk, hkk, hj⟩ := exists_rest h hi (by omega) hrounds
    have hsum : n + 1 = m + (1 + (1 + (n - (m + 1)))) := by omega
    rw [hsum]
    exact rounds_add.2 ⟨k, hk, rounds_add.2 ⟨k, ⟨k, hkk, rfl⟩, rounds_add.2 ⟨k, ⟨k, hkk, rfl⟩, hj⟩⟩⟩

/-- **Beyond the number of positions the number of rounds is of no account.** -/
theorem rounds_iff_of_le (h : Advances limit R) {n i j : ℕ} (hi : i ≤ limit) (hn : limit + 1 ≤ n) :
    Rounds R n i j ↔ Rounds R (limit + 1) i j := by
  induction n, hn using Nat.le_induction with
  | base => rfl
  | succ n hn ih => rw [rounds_succ_iff h hi (by omega), ih]

/-- The greatest number of rounds that a search makes after the least one. -/
def roundsAfter (limit least : ℕ) : Option ℕ → ℕ
  | none => limit + 1
  | some most => min (most - least) (limit + 1)

/-- **The rounds of a search are those of a match.** -/
theorem exists_rounds_iff (h : Advances limit R) {least i j : ℕ} (most : Option ℕ)
    (hi : i ≤ limit) :
    (∃ n ≤ roundsAfter limit least most, Rounds R (min least (limit + 1) + n) i j) ↔
      ∃ n, least ≤ n ∧ (∀ m ∈ most, n ≤ max least m) ∧ Rounds R n i j := by
  have hafter : ∀ n, n ≤ roundsAfter limit least most ↔
      n ≤ limit + 1 ∧ ∀ m ∈ most, n ≤ m - least := by
    intro n
    cases most with
    | none => simp [roundsAfter]
    | some most =>
      rw [roundsAfter, Nat.le_min, and_comm]
      simp
  constructor
  · rintro ⟨n, hn, hrounds⟩
    obtain ⟨-, hmost⟩ := (hafter n).1 hn
    by_cases hleast : least ≤ limit + 1
    · rw [Nat.min_eq_left hleast] at hrounds
      refine ⟨least + n, by omega, fun m hm => ?_, hrounds⟩
      have := hmost m hm
      omega
    · rw [Nat.min_eq_right (by omega), rounds_iff_of_le h hi (by omega)] at hrounds
      exact ⟨least, le_rfl, fun m _ => le_max_left _ _,
        (rounds_iff_of_le h hi (by omega)).2 hrounds⟩
  · rintro ⟨n, hn, hmost, hrounds⟩
    by_cases hmany : limit + 1 ≤ n
    · -- the chain is cut to as many rounds as there are positions
      rw [rounds_iff_of_le h hi hmany] at hrounds
      refine ⟨limit + 1 - min least (limit + 1), (hafter _).2 ⟨by omega, fun m hm => ?_⟩, ?_⟩
      · have := hmost m hm
        omega
      · rwa [Nat.add_sub_cancel' (Nat.min_le_right _ _)]
    · refine ⟨n - least, (hafter _).2 ⟨by omega, fun m hm => ?_⟩, ?_⟩
      · have := hmost m hm
        omega
      · rwa [Nat.min_eq_left (by omega), Nat.add_sub_cancel' hn]

end Rounds

/-! ### Positions -/

section Positions

variable {text : List Char}

theorem advances_literal (cs : List Char) :
    Advances text.length fun i j => cs <+: text.drop i ∧ j = i + cs.length := by
  rintro i j hi ⟨hstarts, rfl⟩
  have hlength := hstarts.length_le
  rw [List.length_drop] at hlength
  exact ⟨by omega, by omega⟩

mutual

/-- Matches never lead backward or out of the text. -/
theorem advances_spans (text : List Char) : (r : Regex) → Advances text.length (Spans text r)
  | empty => by
    rintro i j hi rfl
    exact ⟨le_rfl, hi⟩
  | literal cs => advances_literal cs
  | set _ s => by
    rintro i j hi ⟨⟨c, hc, -⟩, rfl⟩
    have hlt := (List.getElem?_eq_some_iff.1 hc).1
    exact ⟨by omega, by omega⟩
  | look l => by
    rintro i j hi ⟨-, rfl⟩
    exact ⟨le_rfl, hi⟩
  | repetition _ _ _ sub => by
    rintro i j hi ⟨n, -, -, hrounds⟩
    exact (advances_spans text sub).rounds n hi hrounds
  | group _ sub => advances_spans text sub
  | concat rs => advances_spansInRow text rs
  | alternation rs => advances_spansEither text rs

theorem advances_spansInRow (text : List Char) :
    (rs : List Regex) → Advances text.length (SpansInRow text rs)
  | [] => by
    rintro i j hi rfl
    exact ⟨le_rfl, hi⟩
  | r :: rs => by
    rintro i j hi ⟨k, hk, hj⟩
    have hstep := advances_spans text r hi hk
    have hrest := advances_spansInRow text rs hstep.2 hj
    exact ⟨hstep.1.trans hrest.1, hrest.2⟩

theorem advances_spansEither (text : List Char) :
    (rs : List Regex) → Advances text.length (SpansEither text rs)
  | [] => fun _ _ _ h => h.elim
  | r :: rs => by
    rintro i j hi (hj | hj)
    · exact advances_spans text r hi hj
    · exact advances_spansEither text rs hi hj

end

end Positions

/-! ### Steps on marks -/

/-- A position is marked. -/
def Marks.Has (marks : Marks) (i : ℕ) : Prop := marks[i]? = some true

/-- A step on the marks of a text takes them to where a relation on positions leads. -/
def Marks.Follows (text : List Char) (step : Marks → Marks) (R : ℕ → ℕ → Prop) : Prop :=
  ∀ marks : Marks, marks.length = text.length + 1 →
    (step marks).length = text.length + 1 ∧
      ∀ j, (step marks).Has j ↔ ∃ i, marks.Has i ∧ R i j

section Marks

open Marks

variable {text : List Char} {step step' : Marks → Marks} {R S : ℕ → ℕ → Prop}

theorem Marks.Has.le {marks : Marks} (hlength : marks.length = text.length + 1) {i : ℕ}
    (h : marks.Has i) : i ≤ text.length := by
  have := (List.getElem?_eq_some_iff.1 h).1
  omega

theorem Marks.has_union {marks marks' : Marks} (h : marks.length = marks'.length) (i : ℕ) :
    (marks.union marks').Has i ↔ marks.Has i ∨ marks'.Has i := by
  rw [Has, union, List.getElem?_zipWith]
  by_cases hi : i < marks.length
  · rw [Has, Has, List.getElem?_eq_getElem hi, List.getElem?_eq_getElem (h ▸ hi)]
    simp
  · simp [Has, List.getElem?_eq_none (Nat.le_of_not_lt hi),
      List.getElem?_eq_none (h ▸ Nat.le_of_not_lt hi)]

theorem Marks.has_inter (marks marks' : Marks) (i : ℕ) :
    (marks.inter marks').Has i ↔ marks.Has i ∧ marks'.Has i := by
  rw [Has, Has, Has, inter, List.getElem?_zipWith]
  cases marks[i]? <;> cases marks'[i]? <;> simp

theorem Marks.Follows.congr (h : Follows text step R)
    (hRS : ∀ {i j}, i ≤ text.length → (R i j ↔ S i j)) : Follows text step S := by
  intro marks hmarks
  obtain ⟨hlength, hhas⟩ := h marks hmarks
  refine ⟨hlength, fun j => (hhas j).trans (exists_congr fun i => and_congr_right fun hi => ?_)⟩
  exact hRS (hi.le hmarks)

theorem Marks.follows_id : Follows text id fun i j => j = i := by
  intro marks hmarks
  refine ⟨hmarks, fun j => ?_⟩
  simp

theorem Marks.Follows.comp (h : Follows text step R) (h' : Follows text step' S) :
    Follows text (fun marks => step' (step marks)) fun i j => ∃ k, R i k ∧ S k j := by
  intro marks hmarks
  obtain ⟨hlength, hhas⟩ := h marks hmarks
  obtain ⟨hlength', hhas'⟩ := h' _ hlength
  refine ⟨hlength', fun j => (hhas' j).trans ?_⟩
  simp only [hhas]
  constructor
  · rintro ⟨k, ⟨i, hi, hk⟩, hj⟩
    exact ⟨i, hi, k, hk, hj⟩
  · rintro ⟨i, hi, k, hk, hj⟩
    exact ⟨k, ⟨i, hi, hk⟩, hj⟩

theorem Marks.Follows.union (h : Follows text step R) (h' : Follows text step' S) :
    Follows text (fun marks => (step marks).union (step' marks)) fun i j => R i j ∨ S i j := by
  intro marks hmarks
  obtain ⟨hlength, hhas⟩ := h marks hmarks
  obtain ⟨hlength', hhas'⟩ := h' marks hmarks
  refine ⟨by simp [Marks.union, hlength, hlength'], fun j => ?_⟩
  simp only [has_union (hlength.trans hlength'.symm), hhas, hhas', and_or_left, exists_or]

theorem Marks.follows_none :
    Follows text (fun marks => marks.map fun _ => false) fun _ _ => False := by
  intro marks hmarks
  refine ⟨by simp [hmarks], fun j => ?_⟩
  simp [Has, List.getElem?_replicate]

theorem Marks.follows_advance (s : CharSet) :
    Follows text (·.advance s text) fun i j =>
      (∃ c, text[i]? = some c ∧ s.contains c = true) ∧ j = i + 1 := by
  intro marks hmarks
  refine ⟨by simp [advance, hmarks], fun j => ?_⟩
  cases j with
  | zero => simp [Has, advance]
  | succ j =>
    simp only [Has, advance, List.getElem?_cons_succ, List.getElem?_zipWith,
      Nat.add_right_cancel_iff]
    constructor
    · intro h
      cases hmark : marks[j]? with
      | none => simp [hmark] at h
      | some mark =>
        cases hc : text[j]? with
        | none => simp [hmark, hc] at h
        | some c =>
          simp only [hmark, hc, Option.some.injEq, Bool.and_eq_true] at h
          exact ⟨j, h.1 ▸ hmark, ⟨c, hc, h.2⟩, rfl⟩
    · rintro ⟨i, hi, ⟨c, hc, hs⟩, rfl⟩
      simp [hi, hc, hs]

theorem Marks.Follows.iterate (h : Follows text step R) (n : ℕ) :
    Follows text (Regex.iterate step n) (Rounds R n) := by
  induction n with
  | zero => exact follows_id
  | succ n ih => exact h.comp ih

/-- Marks that a step does not add to stay what they are for ever. -/
theorem has_of_rounds {marks : Marks} (hclosed : ∀ {i j}, marks.Has i → R i j → marks.Has j)
    {n i j : ℕ} (hi : marks.Has i) (h : Rounds R n i j) : marks.Has j := by
  induction n generalizing i with
  | zero =>
    obtain rfl := h
    exact hi
  | succ n ih =>
    obtain ⟨k, hk, hj⟩ := h
    exact ih (hclosed hi hk) hj

theorem Marks.Follows.closure (h : Follows text step R) (n : ℕ) :
    Follows text (Regex.closure step n) fun i j => ∃ k ≤ n, Rounds R k i j := by
  induction n with
  | zero => exact follows_id.congr fun {i j} _ => by simp [Rounds]
  | succ n ih =>
    intro marks hmarks
    obtain ⟨hlength, hhas⟩ : (marks.union (step marks)).length = text.length + 1 ∧
        ∀ j, (marks.union (step marks)).Has j ↔ ∃ i, marks.Has i ∧ (j = i ∨ R i j) :=
      follows_id.union h marks hmarks
    simp only [Regex.closure]
    split_ifs with hsame
    · -- nothing was added, so nothing is reached that has no mark
      simp only [hsame] at hhas
      have hclosed : ∀ {i j}, marks.Has i → R i j → marks.Has j := fun {i j} hi hij =>
        (hhas j).2 ⟨i, hi, .inr hij⟩
      refine ⟨hmarks, fun j => ⟨fun hj => ⟨j, hj, 0, Nat.zero_le _, rfl⟩, ?_⟩⟩
      rintro ⟨i, hi, k, -, hrounds⟩
      exact has_of_rounds hclosed hi hrounds
    · obtain ⟨hlength', hhas'⟩ := ih _ hlength
      refine ⟨hlength', fun j => (hhas' j).trans ?_⟩
      simp only [hhas]
      constructor
      · rintro ⟨l, ⟨i, hi, rfl | hl⟩, k, hk, hj⟩
        · exact ⟨l, hi, k, by omega, hj⟩
        · exact ⟨i, hi, k + 1, by omega, l, hl, hj⟩
      · rintro ⟨i, hi, k, hk, hj⟩
        cases k with
        | zero => exact ⟨i, ⟨i, hi, .inl rfl⟩, 0, Nat.zero_le _, hj⟩
        | succ k =>
          obtain ⟨l, hl, hj⟩ := hj
          exact ⟨l, ⟨i, hi, .inr hl⟩, k, by omega, hj⟩

theorem cons_prefix_drop_iff {c : Char} {cs : List Char} {i : ℕ} :
    c :: cs <+: text.drop i ↔ text[i]? = some c ∧ cs <+: text.drop (i + 1) := by
  rw [← List.head?_drop, ← List.tail_drop]
  cases text.drop i with
  | nil => simp
  | cons d ds => simp [List.cons_prefix_cons, eq_comm]

theorem Marks.follows_literal (cs : List Char) :
    Follows text (fun marks => cs.foldl (fun marks c => marks.advance (.single c) text) marks)
      fun i j => cs <+: text.drop i ∧ j = i + cs.length := by
  induction cs with
  | nil => exact follows_id.congr fun {i j} _ => by simp
  | cons c cs ih =>
    refine ((follows_advance (.single c)).comp ih).congr fun {i j} _ => ?_
    simp only [CharSet.contains_single, cons_prefix_drop_iff, exists_eq_right]
    constructor
    · rintro ⟨k, ⟨hc, rfl⟩, hcs, rfl⟩
      exact ⟨⟨hc, hcs⟩, by simp; omega⟩
    · rintro ⟨⟨hc, hcs⟩, rfl⟩
      exact ⟨i + 1, ⟨hc, rfl⟩, hcs, by simp; omega⟩

theorem length_positions (l : Look) (before : Option Char) (text : List Char) :
    (Look.positions l before text).length = text.length + 1 := by
  induction text generalizing before with
  | nil => rfl
  | cons c text ih => rw [Look.positions, List.length_cons, ih, List.length_cons]

theorem has_positions {l : Look} {before : Option Char} {i : ℕ} (hi : i ≤ text.length) :
    (Look.positions l before text).Has i ↔
      l.holds (if i = 0 then before else text[i - 1]?) text[i]? = true := by
  induction text generalizing before i with
  | nil =>
    obtain rfl : i = 0 := by simpa using hi
    simp [Look.positions, Has]
  | cons c text ih =>
    cases i with
    | zero => simp [Look.positions, Has]
    | succ i =>
      have hih : (Look.positions l (some c) text)[i]? = some true ↔
          l.holds (if i = 0 then some c else text[i - 1]?) text[i]? = true :=
        ih (by simpa using hi)
      rw [Look.positions, Has, List.getElem?_cons_succ, hih]
      cases i <;> simp

theorem Marks.follows_look (l : Look) :
    Follows text (·.inter (Look.positions l none text)) fun i j =>
      l.holds (charBefore? text i) text[i]? = true ∧ j = i := by
  intro marks hmarks
  refine ⟨by simp [Marks.inter, hmarks, length_positions], fun j => ?_⟩
  have hbefore : charBefore? text j = if j = 0 then none else text[j - 1]? := by
    cases j <;> rfl
  rw [has_inter]
  constructor
  · rintro ⟨hj, hlook⟩
    rw [has_positions (hj.le hmarks), ← hbefore] at hlook
    exact ⟨j, hj, hlook, rfl⟩
  · rintro ⟨i, hi, hlook, rfl⟩
    rw [hbefore] at hlook
    exact ⟨hi, (has_positions (hi.le hmarks)).2 hlook⟩

mutual

/-- **A search takes marks from where matches begin to where they end.** -/
theorem follows_reach (text : List Char) : (r : Regex) → Follows text (reach text r) (Spans text r)
  | empty => follows_id
  | literal cs => follows_literal cs
  | set _ s => follows_advance s
  | look l => follows_look l
  | repetition least most _ sub => by
    have hsub := follows_reach text sub
    refine ((hsub.iterate _).comp (hsub.closure _)).congr fun {i j} hi => ?_
    refine Iff.trans ?_ (exists_rounds_iff (advances_spans text sub) most hi)
    simp only [rounds_add]
    cases most <;> grind [roundsAfter]
  | group _ sub => follows_reach text sub
  | concat rs => follows_reachInRow text rs
  | alternation rs => follows_reachEither text rs

theorem follows_reachInRow (text : List Char) :
    (rs : List Regex) → Follows text (reachInRow text rs) (SpansInRow text rs)
  | [] => follows_id
  | r :: rs => (follows_reach text r).comp (follows_reachInRow text rs)

theorem follows_reachEither (text : List Char) :
    (rs : List Regex) → Follows text (reachEither text rs) (SpansEither text rs)
  | [] => follows_none
  | r :: rs => (follows_reach text r).union (follows_reachEither text rs)

end

end Marks

/-! ### Searches -/

/-- **A regular expression matches in a text if and only if it spans some part of it.** -/
theorem isMatch_iff {r : Regex} {text : String} :
    r.isMatch text = true ↔ ∃ i j, i ≤ text.toList.length ∧ Spans text.toList r i j := by
  have hstart : ∀ i, Marks.Has (List.replicate (text.toList.length + 1) true) i ↔
      i ≤ text.toList.length := fun i => by
    rw [Marks.Has, List.getElem?_replicate, Option.ite_none_right_eq_some, Nat.lt_succ_iff]
    simp
  obtain ⟨-, hhas⟩ := follows_reach text.toList r (List.replicate (text.toList.length + 1) true)
    List.length_replicate
  rw [isMatch, List.any_eq_true]
  constructor
  · rintro ⟨mark, hmark, hid⟩
    obtain rfl : mark = true := hid
    obtain ⟨j, hj⟩ := List.mem_iff_getElem?.1 hmark
    obtain ⟨i, hi, hspans⟩ := (hhas j).1 hj
    exact ⟨i, j, (hstart i).1 hi, hspans⟩
  · rintro ⟨i, j, hi, hspans⟩
    exact ⟨true, List.mem_of_getElem? ((hhas j).2 ⟨i, (hstart i).2 hi, hspans⟩), rfl⟩

/-- Putting parts in a row does not change what they span. -/
theorem spans_sequence {text : List Char} (rs : List Regex) {i j : ℕ} (hi : i ≤ text.length) :
    Spans text (sequence rs) i j ↔ SpansInRow text rs i j := by
  -- a search from the mark of a single position
  have hlength : ((List.range (text.length + 1)).map (· == i)).length = text.length + 1 := by simp
  have hstart : ∀ k, Marks.Has ((List.range (text.length + 1)).map (· == i)) k ↔ k = i := by
    intro k
    rw [Marks.Has, List.getElem?_map]
    by_cases hk : k < text.length + 1
    · simp [List.getElem?_range hk]
    · have hne : k ≠ i := by omega
      rw [List.getElem?_eq_none (by simpa using hk)]
      simp [hne]
  have hsequence := (follows_reach text (sequence rs) _ hlength).2 j
  rw [reach_sequence, (follows_reachInRow text rs _ hlength).2 j] at hsequence
  simpa only [hstart, exists_eq_left] using hsequence.symm

end ContentBlocking.Regex
