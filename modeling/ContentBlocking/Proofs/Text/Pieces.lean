import ContentBlocking.Text.Blank
import Mathlib.Data.List.DropRight

/-!
# Pieces of a text

A text is the pieces between its separators, joined.  Both are functions of the library
(`Text.splitOn_eq`, `Text.joinWith_eq`).  The pieces of a joined text are those of its parts
(`Text.splitOn_append_cons`, `Text.splitOn_joinWith`), and pieces hold no separator, so pieces that
are joined come apart as they were (`Text.splitOn_joinWith_of_not_mem`).
-/

namespace ContentBlocking.Text

variable {sep : Char} {cs l : List Char}

theorem splitOn_eq (sep : Char) (cs : List Char) : splitOn sep cs = cs.splitOn sep := by
  rw [splitOn, List.splitOn_eq_splitOnP]
  induction cs with
  | nil => rfl
  | cons c cs ih =>
    rw [splitOnP, ih, List.splitOnP_cons_eq_if_modifyHead]
    cases hpieces : cs.splitOnP (· == sep) with
    | nil => exact absurd hpieces (List.splitOnP_ne_nil _ cs)
    | cons piece pieces => rfl

theorem joinWith_eq (sep : Char) (ps : List (List Char)) :
    joinWith sep ps = [sep].intercalate ps := by
  induction ps with
  | nil => rfl
  | cons p ps ih =>
    cases ps with
    | nil => rw [joinWith, List.intercalate_singleton]
    | cons q ps =>
      rw [joinWith, ih, List.intercalate_cons_cons, List.append_assoc]
      rfl

theorem splitOn_append_cons (sep : Char) (xs ys : List Char) :
    splitOn sep (xs ++ sep :: ys) = splitOn sep xs ++ splitOn sep ys := by
  simp only [splitOn_eq, List.splitOn_append_cons_self]

theorem splitOn_of_not_mem {sep : Char} {xs : List Char} (h : sep ∉ xs) :
    splitOn sep xs = [xs] := by
  rw [splitOn_eq, List.splitOn_eq_singleton h]

theorem not_mem_of_mem_splitOn {sep : Char} (h : l ∈ splitOn sep cs) : sep ∉ l := by
  rw [splitOn_eq] at h
  induction cs generalizing l with
  | nil =>
    obtain rfl := List.mem_singleton.1 h
    exact List.not_mem_nil
  | cons c cs ih =>
    obtain ⟨piece, pieces, hpieces⟩ := List.exists_cons_of_ne_nil (List.splitOn_ne_nil sep cs)
    rw [List.splitOn_cons_eq_if_modifyHead, hpieces] at h
    rw [hpieces] at ih
    split_ifs at h with hc
    · rcases List.mem_cons.1 h with rfl | h
      · exact List.not_mem_nil
      · exact ih h
    · rw [List.modifyHead_cons] at h
      rcases List.mem_cons.1 h with rfl | h
      · rw [List.mem_cons, not_or]
        exact ⟨fun heq => hc (beq_iff_eq.2 heq.symm), ih List.mem_cons_self⟩
      · exact ih (List.mem_cons_of_mem _ h)

theorem joinWith_cons (p : List Char) {ps : List (List Char)} (h : ps ≠ []) :
    joinWith sep (p :: ps) = p ++ sep :: joinWith sep ps := by
  rw [joinWith_eq, joinWith_eq, List.intercalate_cons_of_ne_nil h, List.append_assoc]
  rfl

theorem splitOn_joinWith (sep : Char) {ps : List (List Char)} (h : ps ≠ []) :
    splitOn sep (joinWith sep ps) = ps.flatMap (splitOn sep) := by
  induction ps with
  | nil => exact absurd rfl h
  | cons p ps ih =>
    cases ps with
    | nil => rw [joinWith, List.flatMap_singleton]
    | cons q ps =>
      rw [joinWith, splitOn_append_cons, ih (List.cons_ne_nil _ _), ← List.flatMap_cons]

theorem splitOn_joinWith_of_not_mem {ps : List (List Char)} (hne : ps ≠ [])
    (h : ∀ p ∈ ps, sep ∉ p) : splitOn sep (joinWith sep ps) = ps := by
  rw [splitOn_eq, joinWith_eq, List.splitOn_intercalate sep h hne]

/-- A text has one piece more than separators. -/
theorem length_splitOn (sep : Char) (cs : List Char) :
    (splitOn sep cs).length = cs.count sep + 1 := by
  rw [splitOn_eq]
  induction cs with
  | nil => rfl
  | cons c cs ih =>
    rw [List.splitOn_cons_eq_if_modifyHead, List.count_cons]
    split_ifs <;> simp [ih]

theorem count_joinWith {ps : List (List Char)} (hne : ps ≠ []) (h : ∀ p ∈ ps, sep ∉ p) :
    (joinWith sep ps).count sep + 1 = ps.length := by
  rw [← length_splitOn, splitOn_joinWith_of_not_mem hne h]

/-- What holds of the separator and of all characters of the pieces holds of those of the text. -/
theorem forall_mem_joinWith {P : Char → Prop} {ps : List (List Char)} (hsep : P sep)
    (h : ∀ p ∈ ps, ∀ c ∈ p, P c) : ∀ c ∈ joinWith sep ps, P c := by
  induction ps with
  | nil => simp [joinWith]
  | cons p ps ih =>
    obtain ⟨hp, hps⟩ := List.forall_mem_cons.1 h
    cases ps with
    | nil => exact hp
    | cons q ps =>
      rw [joinWith, List.forall_mem_append, List.forall_mem_cons]
      exact ⟨hp, hsep, ih hps⟩

theorem length_joinWith_le (sep : Char) {ps : List (List Char)} {n : ℕ}
    (h : ∀ p ∈ ps, p.length ≤ n) : (joinWith sep ps).length ≤ (n + 1) * ps.length := by
  induction ps with
  | nil => simp [joinWith]
  | cons p ps ih =>
    obtain ⟨hp, hps⟩ := List.forall_mem_cons.1 h
    have hlength := ih hps
    cases ps with
    | nil => simpa [joinWith] using Nat.le_succ_of_le hp
    | cons q ps =>
      rw [joinWith, List.length_append, List.length_cons, List.length_cons, Nat.mul_succ]
      omega

/-- Joined pieces start with the first of them. -/
theorem exists_joinWith_cons (sep : Char) (p : List Char) (ps : List (List Char)) :
    ∃ tail, joinWith sep (p :: ps) = p ++ tail := by
  cases ps with
  | nil => exact ⟨[], by rw [joinWith, List.append_nil]⟩
  | cons q ps => exact ⟨_, rfl⟩

theorem joinWith_append {ps qs : List (List Char)} (hp : ps ≠ []) (hq : qs ≠ []) :
    joinWith sep (ps ++ qs) = joinWith sep ps ++ sep :: joinWith sep qs := by
  induction ps with
  | nil => exact absurd rfl hp
  | cons p ps ih =>
    cases ps with
    | nil => exact joinWith_cons p hq
    | cons p' ps =>
      rw [List.cons_append, joinWith_cons p (by simp), ih (by simp), joinWith_cons p (by simp),
        List.append_assoc, List.cons_append]

/-- What follows joined pieces follows the last of them. -/
theorem joinWith_concat_append (ps : List (List Char)) (p tail : List Char) :
    joinWith sep (ps ++ [p ++ tail]) = joinWith sep (ps ++ [p]) ++ tail := by
  cases ps with
  | nil => rfl
  | cons q ps =>
    rw [joinWith_append (by simp) (by simp), joinWith_append (by simp) (by simp), List.append_assoc]
    rfl

end ContentBlocking.Text
