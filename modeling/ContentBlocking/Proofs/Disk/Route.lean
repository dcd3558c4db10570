import ContentBlocking.Disk.FileTree
import ContentBlocking.Proofs.Success
import ContentBlocking.Proofs.Text.Pieces
import Mathlib.Data.List.TakeWhile
import Mathlib.Data.Set.Basic

/-!
# Where paths lead

Without links, the place that a path leads to is a matter of its text: `Path.place`.  If a path can
be resolved at all, it resolves to that place (`FileTree.eq_place_of_resolve`).  `Path.way` has all
places that the path leads through; the parent of a path lies on its way
(`Path.way_subset_of_parent?`).
-/

namespace ContentBlocking

namespace Place

/-- The place that a part of a path leads to. -/
def enter (p : Place) (part : List Char) : Place :=
  if part = [] ∨ part = ['.'] then p
  else if part = ['.', '.'] then p.dropLast
  else p ++ [String.ofList part]

/-- The place that some parts of a path lead to. -/
def walk (p : Place) (parts : List (List Char)) : Place := parts.foldl enter p

@[simp] theorem walk_nil (p : Place) : walk p [] = p := rfl

@[simp] theorem walk_cons (p : Place) (part : List Char) (parts : List (List Char)) :
    walk p (part :: parts) = walk (p.enter part) parts := rfl

@[simp] theorem walk_append (p : Place) (xs ys : List (List Char)) :
    walk p (xs ++ ys) = walk (walk p xs) ys := List.foldl_append

@[simp] theorem enter_nil (p : Place) : p.enter [] = p := rfl

theorem enter_name (p : Place) {part : List Char} (h : Path.isName part = true) :
    p.enter part = p ++ [String.ofList part] := by
  simp only [Path.isName, Bool.and_eq_true, decide_eq_true_eq] at h
  rw [enter, if_neg (by simp [h]), if_neg h.2]

/-- The places that some parts of a path lead through. -/
def way (p : Place) (parts : List (List Char)) : Set Place :=
  {q | ∃ front, front <+: parts ∧ q = walk p front}

theorem walk_mem_way {p : Place} {front parts : List (List Char)} (h : front <+: parts) :
    walk p front ∈ way p parts := ⟨front, h, rfl⟩

end Place

namespace Path

/-- The place where a path starts that is seen from `home`. -/
def start (home : Place) (cs : List Char) : Place := if cs.head? = some '/' then [] else home

/-- The place that the text of a path leads to. -/
def placeOf (home : Place) (cs : List Char) : Place :=
  Place.walk (start home cs) (Text.splitOn '/' cs)

/-- The places that the text of a path leads through. -/
def wayOf (home : Place) (cs : List Char) : Set Place :=
  Place.way (start home cs) (Text.splitOn '/' cs)

/-- The place that a path leads to. -/
def place (home : Place) (path : String) : Place := placeOf home path.toList

/-- The places that a path leads through. -/
def way (home : Place) (path : String) : Set Place := wayOf home path.toList

variable {home : Place}

theorem placeOf_mem_wayOf (cs : List Char) : placeOf home cs ∈ wayOf home cs :=
  Place.walk_mem_way List.prefix_rfl

theorem place_mem_way (path : String) : place home path ∈ way home path := placeOf_mem_wayOf _

theorem start_append {cs : List Char} (h : cs ≠ []) (ds : List Char) :
    start home (cs ++ ds) = start home cs := by
  cases cs with
  | nil => exact absurd rfl h
  | cons c cs => rfl

/-! ### Shorter paths -/

theorem wayOf_subset_append {cs : List Char} (h : cs ≠ []) (ds : List Char) :
    wayOf home cs ⊆ wayOf home (cs ++ '/' :: ds) := by
  rintro q ⟨front, hfront, rfl⟩
  rw [wayOf, start_append h, Text.splitOn_append_cons]
  exact Place.walk_mem_way (hfront.trans (List.prefix_append _ _))

/-- A path up to one of its slashes leads nowhere else. -/
theorem wayOf_slash_subset (cs ds : List Char) :
    wayOf home (cs ++ ['/']) ⊆ wayOf home (cs ++ '/' :: ds) := by
  have hstart : start home (cs ++ ['/']) = start home (cs ++ '/' :: ds) := by
    cases cs <;> rfl
  rintro q ⟨front, hfront, rfl⟩
  rw [wayOf, Text.splitOn_append_cons, hstart]
  rw [Text.splitOn_append_cons] at hfront
  rcases List.prefix_concat_iff.1 hfront with rfl | hfront
  · rw [Place.walk_append, Place.walk_cons, Place.enter_nil, Place.walk_nil]
    exact Place.walk_mem_way (List.prefix_append _ _)
  · exact Place.walk_mem_way (hfront.trans (List.prefix_append _ _))

theorem wayOf_dropTrailing_subset (back : List Char) (fuel : Nat) :
    wayOf home (dropTrailing back fuel).reverse ⊆ wayOf home back.reverse := by
  induction fuel generalizing back with
  | zero =>
    rw [dropTrailing]
  | succ fuel ih =>
    unfold dropTrailing
    split
    · next rest =>
      split_ifs with hrest
      · exact Set.Subset.refl _
      · refine (ih rest).trans ?_
        rw [List.reverse_cons]
        exact wayOf_subset_append (by simpa using hrest) []
    · next rest =>
      refine (ih _).trans ?_
      rw [List.reverse_cons, List.reverse_cons, List.reverse_cons, List.append_assoc]
      exact wayOf_slash_subset rest.reverse ['.']
    · exact Set.Subset.refl _

theorem wayOf_trimEnd_subset (cs : List Char) : wayOf home (trimEnd cs) ⊆ wayOf home cs := by
  have h : wayOf home (trimEnd cs) ⊆ wayOf home cs.reverse.reverse :=
    wayOf_dropTrailing_subset cs.reverse cs.length
  rwa [List.reverse_reverse] at h

/-- The parent of a path lies on its way. -/
theorem way_subset_of_parent? {path parent : String} (h : parent? path = some parent) :
    way home parent ⊆ way home path := by
  obtain rfl : String.ofList (trimEnd (splitLast path.toList).1) = parent := by
    by_cases hname : (splitLast path.toList).2 = []
    · simp only [parent?, if_pos hname, reduceCtorEq] at h
    · simpa only [parent?, if_neg hname, Option.some.injEq] using h
  rw [splitLast, way, String.toList_ofList, way]
  refine (wayOf_trimEnd_subset _).trans (Set.Subset.trans ?_ (wayOf_trimEnd_subset _))
  generalize trimEnd path.toList = cs
  obtain ⟨name, back, hcs, hback, hslash⟩ : ∃ name back, cs.reverse = name ++ back ∧
      back = cs.reverse.dropWhile (· != '/') ∧ '/' ∉ name :=
    ⟨_, _, List.takeWhile_append_dropWhile.symm, rfl, fun hmem => by
      simpa using List.mem_takeWhile_imp hmem⟩
  rw [← hback]
  have hcs' : cs = back.reverse ++ name.reverse := by
    rw [← List.reverse_append, ← hcs, List.reverse_reverse]
  cases back with
  | nil =>
    -- There is no slash, so the path starts at the home of the tree.
    rintro q ⟨front, hfront, rfl⟩
    have hhead : cs.head? ≠ some '/' := by
      intro hhead
      refine hslash (List.mem_reverse.1 ?_)
      rw [hcs', List.reverse_nil, List.nil_append] at hhead
      exact List.mem_of_head? hhead
    have hwalk : Place.walk (start home []) front = Place.walk home [] := by
      have hfront : front <+: [] ++ [[]] := hfront
      rcases List.prefix_concat_iff.1 hfront with rfl | hfront
      · rfl
      · rw [List.prefix_nil.1 hfront]
        rfl
    rw [List.reverse_nil, hwalk, wayOf, start, if_neg hhead]
    exact Place.walk_mem_way (List.nil_prefix)
  | cons c back =>
    have hc : c = '/' := by
      have hhead := List.head?_dropWhile_not (· != '/') cs.reverse
      rw [← hback] at hhead
      simpa using hhead
    rw [hcs', hc, List.reverse_cons, List.append_assoc]
    exact wayOf_slash_subset back.reverse name.reverse

theorem exists_slashes (cs : List Char) :
    ∃ n, cs = Text.dropRightWhile (· == '/') cs ++ List.replicate n '/' := by
  refine ⟨(cs.reverse.takeWhile (· == '/')).length, ?_⟩
  have hslashes : cs.reverse.takeWhile (· == '/') =
      List.replicate (cs.reverse.takeWhile (· == '/')).length '/' :=
    List.eq_replicate_iff.2 ⟨rfl, fun c hc => by simpa using List.mem_takeWhile_imp hc⟩
  rw [Text.dropRightWhile, ← List.reverse_replicate, ← hslashes, ← List.reverse_append,
    List.takeWhile_append_dropWhile, List.reverse_reverse]

/-- A path with slashes at its end has them taken off; any other path, and one of slashes alone,
stays. -/
theorem withoutSlashes_cases (path : String) : withoutSlashes path = path ∨
    ∃ cs n, cs ≠ [] ∧ path = String.ofList (cs ++ List.replicate (n + 1) '/') ∧
      withoutSlashes path = String.ofList cs := by
  obtain ⟨n, hn⟩ := exists_slashes path.toList
  rw [withoutSlashes]
  split
  · exact .inl rfl
  · next hcs =>
    generalize Text.dropRightWhile (· == '/') path.toList = cs at hcs hn ⊢
    obtain rfl : path = String.ofList (cs ++ List.replicate n '/') := by
      rw [← hn, String.ofList_toList]
    cases n with
    | zero =>
      left
      rw [List.replicate_zero, List.append_nil]
    | succ n => exact .inr ⟨cs, n, fun hnil => hcs hnil, rfl, rfl⟩

theorem way_withoutSlashes_subset (path : String) :
    way home (withoutSlashes path) ⊆ way home path := by
  rcases withoutSlashes_cases path with heq | ⟨cs, n, hne, rfl, heq⟩
  · rw [heq]
  · rw [heq, way, way, String.toList_ofList, String.toList_ofList]
    exact wayOf_subset_append hne _

/-- What is no slash stays in a path without the slashes at its end. -/
theorem mem_withoutSlashes {path : String} {c : Char} (h : c ∈ path.toList) (hc : c ≠ '/') :
    c ∈ (withoutSlashes path).toList := by
  rcases withoutSlashes_cases path with heq | ⟨cs, n, -, rfl, heq⟩
  · rwa [heq]
  · rw [String.toList_ofList, List.mem_append] at h
    rw [heq, String.toList_ofList]
    exact h.resolve_right fun hslash => hc (List.eq_of_mem_replicate hslash)

/-! ### Names in directories -/

/-- A text that names an entry of a directory. -/
structure PlainName (name : String) : Prop where
  noSlash : '/' ∉ name.toList
  isName : isName name.toList = true

theorem PlainName.of_getLast? {name : String} {c : Char} (hslash : '/' ∉ name.toList)
    (hlast : name.toList.getLast? = some c) (hc : c ≠ '.') : PlainName name where
  noSlash := hslash
  isName := by
    simp only [Path.isName, ne_eq, Bool.and_eq_true, decide_eq_true_eq]
    refine ⟨⟨?_, ?_⟩, ?_⟩ <;>
    · intro heq
      rw [heq] at hlast
      cases hlast
      first | done | exact hc rfl

theorem placeOf_append_name {cs name : List Char} (h : cs ≠ []) (hslash : '/' ∉ name)
    (hname : isName name = true) :
    placeOf home (cs ++ '/' :: name) = placeOf home cs ++ [String.ofList name] := by
  rw [placeOf, start_append h, Text.splitOn_append_cons, Text.splitOn_of_not_mem hslash,
    Place.walk_append, Place.walk_cons, Place.walk_nil, Place.enter_name _ hname]
  rfl

theorem placeOf_slash_name {cs name : List Char} (hslash : '/' ∉ name)
    (hname : isName name = true) :
    placeOf home (cs ++ '/' :: name) = placeOf home (cs ++ ['/']) ++ [String.ofList name] := by
  have hstart : start home (cs ++ ['/']) = start home (cs ++ '/' :: name) := by
    cases cs <;> rfl
  have hempty : Text.splitOn '/' [] = [[]] := rfl
  rw [placeOf, placeOf, hstart, Text.splitOn_append_cons, Text.splitOn_append_cons, hempty,
    Text.splitOn_of_not_mem hslash, Place.walk_append, Place.walk_cons, Place.walk_nil,
    Place.enter_name _ hname, Place.walk_append, Place.walk_cons, Place.walk_nil, Place.enter_nil]

theorem startsWith_slash_iff {s : String} :
    s.startsWith "/" = true ↔ s.toList.head? = some '/' := by
  rw [String.startsWith_string_iff]
  cases s.toList with
  | nil => simp
  | cons c cs => simp [eq_comm]

theorem endsWith_slash_iff {s : String} :
    s.endsWith "/" = true ↔ ∃ front, s.toList = front ++ ['/'] := by
  rw [String.endsWith, String.Slice.endsWith_string_iff, String.copy_toSlice]
  exact ⟨fun ⟨front, h⟩ => ⟨front, h.symm⟩, fun ⟨front, h⟩ => ⟨front, h.symm⟩⟩

/-- A name in a directory leads to the entry of that name in the place of the directory. -/
theorem place_join {name : String} (h : PlainName name) (dir : String) :
    place home (join dir name) = place home dir ++ [name] := by
  have hstart : name.startsWith "/" = false := by
    rw [Bool.eq_false_iff]
    intro hs
    exact h.noSlash (List.mem_of_head? (startsWith_slash_iff.1 hs))
  rw [join, hstart, Bool.false_or]
  by_cases hempty : dir.isEmpty = true
  · rw [if_pos hempty]
    obtain rfl := String.isEmpty_iff.1 hempty
    have hhead : name.toList.head? ≠ some '/' := fun hs => h.noSlash (List.mem_of_head? hs)
    rw [place, placeOf, start, if_neg hhead, Text.splitOn_of_not_mem h.noSlash, Place.walk_cons,
      Place.walk_nil, Place.enter_name _ h.isName, String.ofList_toList]
    rfl
  · rw [if_neg hempty]
    have hdir : dir.toList ≠ [] := by
      intro hnil
      exact hempty (String.isEmpty_iff.2 (String.toList_eq_nil_iff.1 hnil))
    by_cases hend : dir.endsWith "/" = true
    · obtain ⟨front, hfront⟩ := endsWith_slash_iff.1 hend
      rw [if_pos hend, place, place, String.toList_append, hfront, List.append_assoc]
      exact (placeOf_slash_name h.noSlash h.isName).trans (by rw [String.ofList_toList])
    · rw [if_neg hend, place, String.toList_append, String.toList_append, List.append_assoc]
      exact (placeOf_append_name hdir h.noSlash h.isName).trans (by rw [String.ofList_toList]; rfl)

end Path

/-! ### Resolution -/

namespace FileTree

variable {t : FileTree} {p q : Place} {part : List Char} {parts : List (List Char)}

/-- A part of a path can be a name only if that is not too long. -/
def IsEnterable (part : List Char) : Prop :=
  Path.isName part = true → (String.ofList part).utf8ByteSize ≤ maxNameLength

/-- Every kind of part leads on from a directory, unless it is too long a name. -/
theorem follow_cons_of_directory (hp : t.entry? p = some .directory) (hpart : IsEnterable part) :
    t.follow p (part :: parts) = t.follow (p.enter part) parts := by
  rw [follow, hp, Place.enter]
  by_cases hstay : part = [] ∨ part = ['.']
  · simp only [if_pos hstay]
  · by_cases hup : part = ['.', '.']
    · simp only [if_neg hstay, if_pos hup]
    · have hname : Path.isName part = true := by
        simp only [Path.isName, Bool.and_eq_true, decide_eq_true_eq]
        exact ⟨not_or.1 hstay, hup⟩
      simp only [if_neg hstay, if_neg hup, if_neg (Nat.not_lt.2 (hpart hname))]

theorem follow_cons_eq_ok_iff :
    t.follow p (part :: parts) = .ok q ↔
      t.entry? p = some .directory ∧ IsEnterable part ∧ t.follow (p.enter part) parts = .ok q := by
  refine ⟨fun h => ?_, fun ⟨hp, hpart, h⟩ => (follow_cons_of_directory hp hpart).trans h⟩
  have hp : t.entry? p = some .directory := by
    rw [follow] at h
    split at h
    · cases h
    · cases h
    · assumption
  have hpart : IsEnterable part := by
    intro hname
    simp only [Path.isName, Bool.and_eq_true, decide_eq_true_eq] at hname
    by_contra hlong
    simp only [follow, hp, if_neg (not_or.2 hname.1), if_neg hname.2, if_pos (Nat.not_le.1 hlong),
      reduceCtorEq] at h
  exact ⟨hp, hpart, by rwa [follow_cons_of_directory hp hpart] at h⟩

theorem eq_walk_of_follow (h : t.follow p parts = .ok q) : q = p.walk parts := by
  induction parts generalizing p with
  | nil =>
    cases h
    rfl
  | cons part parts ih => exact ih (follow_cons_eq_ok_iff.1 h).2.2

/-- The way of parts that can be followed is through directories. -/
theorem directory_of_mem_placeWay (h : t.follow p parts = .ok q) {r : Place}
    (hr : r ∈ Place.way p parts) : r = q ∨ t.entry? r = some .directory := by
  obtain ⟨front, hfront, rfl⟩ := hr
  induction parts generalizing p front with
  | nil =>
    obtain rfl := List.prefix_nil.1 hfront
    exact .inl (Except.ok.inj h)
  | cons part parts ih =>
    obtain ⟨hp, -, h⟩ := follow_cons_eq_ok_iff.1 h
    cases front with
    | nil => exact .inr hp
    | cons part' front =>
      obtain ⟨rfl, hrest⟩ := List.cons_prefix_cons.1 hfront
      exact ih h front hrest

/-- A path that can be resolved is followed from where it starts. -/
theorem follow_of_resolve {path : String} (h : t.resolve path = .ok q) :
    t.follow (Path.start t.home path.toList) (Path.parts path) = .ok q := by
  rw [resolve] at h
  rw [Path.start]
  split_ifs at h with hempty hnul hlong hslash
  · rwa [if_pos (Path.startsWith_slash_iff.1 hslash)]
  · rwa [if_neg fun hs => hslash (Path.startsWith_slash_iff.2 hs)]

/-- **A path that can be resolved resolves to the place that its text leads to.** -/
theorem eq_place_of_resolve {path : String} (h : t.resolve path = .ok q) :
    q = Path.place t.home path :=
  eq_walk_of_follow (follow_of_resolve h)

end FileTree

end ContentBlocking
