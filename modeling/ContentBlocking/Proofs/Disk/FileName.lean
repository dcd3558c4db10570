import ContentBlocking.Proofs.Disk.Route

/-!
# File names and their extensions

A file name with an extension is the stem, a dot and the extension (`Path.eq_of_splitName`).  A file
in a directory whose extension is replaced stays in the directory (`Path.withExtension_join`).
-/

namespace ContentBlocking.Path

/-! ### Stems and extensions -/

theorem eq_of_splitName {name stem ext : List Char} (h : splitName name = (stem, some ext)) :
    name = stem ++ '.' :: ext ∧ stem ≠ [] := by
  rw [splitName] at h
  have happend : name.reverse.takeWhile (· != '.') ++ name.reverse.dropWhile (· != '.') =
      name.reverse := List.takeWhile_append_dropWhile
  generalize name.reverse.takeWhile (· != '.') = back at h happend
  cases hrest : name.reverse.dropWhile (· != '.') with
  | nil => simp [hrest] at h
  | cons c rest =>
    have hdot : c = '.' := by
      have hhead := List.head?_dropWhile_not (· != '.') name.reverse
      rw [hrest] at hhead
      simpa using hhead
    rw [hrest] at happend
    simp only [hrest] at h
    by_cases hnil : rest = []
    · simp [hnil] at h
    · simp only [if_neg hnil, Prod.mk.injEq, Option.some.injEq] at h
      obtain ⟨rfl, rfl⟩ := h
      refine ⟨?_, by simpa using hnil⟩
      rw [← List.reverse_reverse name, ← happend, hdot]
      simp

theorem splitName_append {stem ext : List Char} (hstem : stem ≠ []) (hext : '.' ∉ ext) :
    splitName (stem ++ '.' :: ext) = (stem, some ext) := by
  have hback : ∀ c ∈ ext.reverse, (c != '.') = true := by
    intro c hc
    rw [bne_iff_ne]
    rintro rfl
    exact hext (List.mem_reverse.1 hc)
  have hreverse : (stem ++ '.' :: ext).reverse = ext.reverse ++ '.' :: stem.reverse := by simp
  rw [splitName, hreverse, List.takeWhile_append_of_pos hback, List.dropWhile_append_of_pos hback,
    List.takeWhile_cons_of_neg (by simp), List.dropWhile_cons_of_neg (by simp)]
  simp [hstem]

/-! ### Files in a directory -/

/-- What stands before the names in a directory. -/
def base (dir : String) : List Char :=
  if dir.isEmpty then [] else if dir.endsWith "/" then dir.toList else dir.toList ++ ['/']

theorem base_eq (dir : String) : base dir = [] ∨ ∃ front, base dir = front ++ ['/'] := by
  rw [base]
  split_ifs with hempty hend
  · exact .inl rfl
  · exact .inr (endsWith_slash_iff.1 hend)
  · exact .inr ⟨_, rfl⟩

theorem toList_join {name : String} (h : '/' ∉ name.toList) (dir : String) :
    (join dir name).toList = base dir ++ name.toList := by
  have hstart : name.startsWith "/" = false := by
    rw [Bool.eq_false_iff]
    intro hs
    exact h (List.mem_of_head? (startsWith_slash_iff.1 hs))
  rw [join, base, hstart, Bool.false_or]
  split_ifs
  · rfl
  · rw [String.toList_append]
  · rw [String.toList_append, String.toList_append]
    rfl

/-- The last character of a name that ends a path as it is. -/
def EndsName (c : Char) : Prop := c ≠ '/' ∧ c ≠ '.'

theorem trimEnd_concat {c : Char} (h : EndsName c) (cs : List Char) :
    trimEnd (cs ++ [c]) = cs ++ [c] := by
  have hdrop : ∀ fuel, dropTrailing (c :: cs.reverse) fuel = c :: cs.reverse := by
    intro fuel
    cases fuel with
    | zero => rfl
    | succ fuel =>
      unfold dropTrailing
      split
      · next heq => exact absurd (List.cons.inj heq).1 h.1
      · next heq => exact absurd (List.cons.inj heq).1 h.2
      · rfl
  rw [trimEnd, List.reverse_append, List.reverse_singleton, List.singleton_append, hdrop]
  simp

theorem splitLast_append {front cs : List Char} {c : Char}
    (hfront : front = [] ∨ ∃ front', front = front' ++ ['/']) (hslash : '/' ∉ cs ++ [c])
    (hc : EndsName c) : splitLast (front ++ (cs ++ [c])) = (front, cs ++ [c]) := by
  have hname : ∀ d ∈ (cs ++ [c]).reverse, (d != '/') = true := by
    intro d hd
    rw [bne_iff_ne]
    rintro rfl
    exact hslash (List.mem_reverse.1 hd)
  rw [splitLast, ← List.append_assoc, trimEnd_concat hc, List.append_assoc, List.reverse_append]
  simp only [List.takeWhile_append_of_pos hname, List.dropWhile_append_of_pos hname]
  rcases hfront with rfl | ⟨front, rfl⟩
  · simp
  · rw [List.reverse_append, List.reverse_singleton, List.singleton_append,
      List.takeWhile_cons_of_neg (by simp), List.dropWhile_cons_of_neg (by simp)]
    simp

/-- A name in a directory whose extension can be replaced. -/
structure ReplaceableName (name : String) : Prop extends PlainName name where
  ends : ∀ c ∈ name.toList.getLast?, EndsName c
  stem : (splitName name.toList).1 ≠ ['.']

/-- **A file with another extension is in the same directory.** -/
theorem withExtension_join {name : String} (h : ReplaceableName name) (ext : String)
    (hext : '/' ∉ ext.toList) (hstem : '/' ∉ (stem name).toList) (dir : String) :
    withExtension (join dir name) ext = join dir (stem name ++ "." ++ ext) := by
  have hname : name.toList ≠ [] := by
    intro hnil
    have := h.isName
    rw [hnil] at this
    cases this
  obtain ⟨cs, c, hcs⟩ : ∃ cs c, name.toList = cs ++ [c] :=
    ⟨_, _, (List.dropLast_append_getLast hname).symm⟩
  have hends : EndsName c := h.ends c (by rw [hcs, List.getLast?_concat]; rfl)
  have hsplit : splitLast (join dir name).toList = (base dir, name.toList) := by
    rw [toList_join h.noSlash, hcs]
    exact splitLast_append (base_eq dir) (hcs ▸ h.noSlash) hends
  have hslash : '/' ∉ (stem name ++ "." ++ ext).toList := by
    simp only [String.toList_append, List.mem_append, not_or]
    exact ⟨⟨hstem, by decide⟩, hext⟩
  rw [withExtension, hsplit]
  simp only [h.isName, Bool.not_true, Bool.false_eq_true, if_false, h.stem, false_and]
  rw [← String.toList_inj, toList_join hslash, String.toList_ofList, stem]
  simp

end ContentBlocking.Path
