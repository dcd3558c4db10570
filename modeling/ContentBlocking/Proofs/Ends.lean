import ContentBlocking.Text.Blank
import Mathlib.Data.List.DropRight

/-!
# The end of a list

`List.rtake n` is the end of a list, its last `n` items or all of them if there are fewer.  What
stands in front of enough items does not matter to it (`rtake_append_of_le`).  To cut off the end
of a text is `List.rdropWhile`, and does nothing to a text with another end
(`Text.dropRightWhile_of_getLast?_ne`).
-/

namespace ContentBlocking

/-! ### The last items -/

section Items

variable {α : Type} {front items : List α} {n : ℕ}

theorem rtake_of_length_le (h : items.length ≤ n) : items.rtake n = items := by
  rw [List.rtake, Nat.sub_eq_zero_of_le h, List.drop_zero]

theorem length_rtake_le (items : List α) (n : ℕ) : (items.rtake n).length ≤ n := by
  rw [List.rtake, List.length_drop]
  omega

theorem length_rtake (h : n ≤ items.length) : (items.rtake n).length = n := by
  rw [List.rtake, List.length_drop]
  omega

theorem exists_append_rtake (items : List α) (n : ℕ) : ∃ front, items = front ++ items.rtake n :=
  ⟨_, (List.take_append_drop (items.length - n) items).symm⟩

/-- An end that is shorter than it may be is all there is. -/
theorem rtake_of_lt (h : (items.rtake n).length < n) : items.rtake n = items := by
  rw [List.rtake, List.length_drop] at h
  exact rtake_of_length_le (by omega)

theorem rtake_append_of_le (h : n ≤ items.length) : (front ++ items).rtake n = items.rtake n := by
  have hlength : front.length + items.length - n = front.length + (items.length - n) := by omega
  rw [List.rtake, List.length_append, hlength, List.drop_append, List.rtake]
  simp

theorem rtake_append_of_length (h : items.length = n) : (front ++ items).rtake n = items := by
  rw [rtake_append_of_le h.ge, rtake_of_length_le h.le]

end Items

/-! ### Texts without their end -/

namespace Text

theorem dropRightWhile_eq (p : Char → Bool) (cs : List Char) :
    dropRightWhile p cs = cs.rdropWhile p := rfl

theorem dropRightWhile_of_getLast?_ne {c : Char} {cs : List Char} (h : cs.getLast? ≠ some c) :
    dropRightWhile (· == c) cs = cs := by
  rw [dropRightWhile_eq, List.rdropWhile_eq_self_iff]
  intro hne
  rw [List.getLast?_eq_some_getLast hne, ne_eq, Option.some_inj] at h
  rwa [beq_iff_eq]

end Text

end ContentBlocking
