import ContentBlocking.DomainPattern
import ContentBlocking.Proofs.Regex.Size
import ContentBlocking.Proofs.Regex.Spans
import Mathlib.Tactic.FinCases

/-!
# What patterns for domains match

The pattern of a wildcard is read as the regular expression `DomainPattern.regexOfWildcard`, so it
is valid unless that is too large (`DomainPattern.ofPattern?_ofWildcard`).  It matches exactly what
the wildcard stands for (`DomainPattern.isMatch_regexOfWildcard`), so that a search for it finds the
domain of the wildcard and, behind a star, its subdomains
(`DomainPattern.matchesAny_ofWildcard_iff`): no character of a domain is anything but itself,
whatever it means elsewhere in a pattern.
-/

namespace ContentBlocking.DomainPattern

open Regex

/-! ### Wildcards -/

/-- A wildcard with a star in front stands for subdomains too. -/
def isStarred (wildcard : List Char) : Bool := wildcard.head? == some '*'

/-- The domain of a wildcard: all of it, or what follows its star and the dots behind that. -/
def bare (wildcard : List Char) : List Char :=
  if isStarred wildcard then wildcard.tail.dropWhile (· == '.') else wildcard

/-- What a pattern begins with. -/
def frontChars (starred : Bool) : List Char := if starred then "^(.*\\.)?".toList else ['^']

theorem isStarred_eq_false {wildcard : List Char} (h : ∀ rest, wildcard ≠ '*' :: rest) :
    isStarred wildcard = false := by
  rw [isStarred, beq_eq_false_iff_ne]
  intro hhead
  obtain ⟨rest, rfl⟩ := List.head?_eq_some_iff.1 hhead
  exact h rest rfl

theorem charsOfWildcard_eq (wildcard : List Char) :
    charsOfWildcard wildcard =
      frontChars (isStarred wildcard) ++ escape (bare wildcard) ++ ['$'] := by
  unfold charsOfWildcard
  split
  · rfl
  · next hne =>
    rw [bare, isStarred_eq_false hne]
    rfl

/-! ### Reading -/

/-- The mode of a pattern that changes no flags and names no groups. -/
def plainMode : Mode := ⟨false, []⟩

/-- The tree of a character that stands for itself. -/
def literalTree (c : Char) : Tree := .literal ⟨c, false⟩

/-- The tree of the group that may stand in front of a domain. -/
def subdomainsTree : Tree :=
  .repetition 0 (some 1) false
    (.group true ⟨[], []⟩ (.concat [.repetition 0 none false .dot, literalTree '.']))

/-- The trees of what a pattern begins with. -/
def frontTrees (starred : Bool) : List Tree :=
  .anchor .lineStart :: if starred then [subdomainsTree] else []

section Reading

variable {c : Char} {branches parts : List Tree}

theorem readEscape?_of_isMeta (h : isMeta c = true) (rest : List Char) :
    plainMode.readEscape? (c :: rest) = some (.literal ⟨c, false⟩, rest) := by
  have hmem : c ∈ "\\.+*?()|[]\x7b\x7d^$#&-~".toList := List.contains_iff_mem.1 h
  fin_cases hmem <;> rfl

theorem ne_of_not_isMeta (h : isMeta c = false) {d : Char} (hd : isMeta d = true) : c ≠ d := by
  rintro rfl
  rw [hd] at h
  cases h

theorem readPrimitive?_of_not_isMeta (h : isMeta c = false) (rest : List Char) :
    plainMode.readPrimitive? (c :: rest) = some (.literal ⟨c, false⟩, rest) := by
  unfold Mode.readPrimitive?
  split
  · next heq => cases heq
  · next heq => exact absurd (List.cons.inj heq).1 (ne_of_not_isMeta h (by decide))
  · next heq => exact absurd (List.cons.inj heq).1 (ne_of_not_isMeta h (by decide))
  · next heq => exact absurd (List.cons.inj heq).1 (ne_of_not_isMeta h (by decide))
  · next heq => exact absurd (List.cons.inj heq).1 (ne_of_not_isMeta h (by decide))
  · next heq =>
    obtain ⟨rfl, rfl⟩ := List.cons.inj heq
    rfl

theorem readBranches?_of_isMeta (h : isMeta c = true) (fuel : ℕ) (rest : List Char) :
    Mode.readBranches? (fuel + 1) plainMode branches parts ('\\' :: c :: rest) =
      Mode.readBranches? fuel plainMode branches (literalTree c :: parts) rest := by
  have hprimitive : plainMode.readPrimitive? ('\\' :: c :: rest) =
      some (.literal ⟨c, false⟩, rest) := readEscape?_of_isMeta h rest
  have hstep : Mode.readBranches? (fuel + 1) plainMode branches parts ('\\' :: c :: rest) =
      (plainMode.readPrimitive? ('\\' :: c :: rest)).bind fun r =>
        Mode.readBranches? fuel plainMode branches (r.1.tree :: parts) r.2 := rfl
  rw [hstep, hprimitive]
  rfl

theorem readBranches?_of_not_isMeta (h : isMeta c = false) (fuel : ℕ) (rest : List Char) :
    Mode.readBranches? (fuel + 1) plainMode branches parts (c :: rest) =
      Mode.readBranches? fuel plainMode branches (literalTree c :: parts) rest := by
  rw [Mode.readBranches?]
  split
  · next heq => cases heq
  · next heq => exact absurd (List.cons.inj heq).1 (ne_of_not_isMeta h (by decide))
  · next heq => exact absurd (List.cons.inj heq).1 (ne_of_not_isMeta h (by decide))
  · next heq => exact absurd (List.cons.inj heq).1 (ne_of_not_isMeta h (by decide))
  · next heq => exact absurd (List.cons.inj heq).1 (ne_of_not_isMeta h (by decide))
  · next heq =>
    obtain ⟨rfl, rfl⟩ := List.cons.inj heq
    have hne : ∀ {d}, isMeta d = true → c ≠ d := ne_of_not_isMeta h
    rw [if_neg (by simp only [not_or]; exact
      ⟨hne (by decide), hne (by decide), hne (by decide), hne (by decide)⟩),
      readPrimitive?_of_not_isMeta h]
    rfl

theorem escape_cons (c : Char) (cs : List Char) :
    escape (c :: cs) = (if isMeta c then ['\\', c] else [c]) ++ escape cs := rfl

theorem length_le_escape (cs : List Char) : cs.length ≤ (escape cs).length := by
  induction cs with
  | nil => exact Nat.zero_le _
  | cons c cs ih =>
    rw [escape_cons]
    split_ifs <;> simp <;> omega

/-- **An escaped text is read as literals, one for each character.** -/
theorem readBranches?_escape (cs : List Char) (fuel : ℕ) (rest : List Char) :
    Mode.readBranches? (fuel + cs.length) plainMode branches parts (escape cs ++ rest) =
      Mode.readBranches? fuel plainMode branches ((cs.map literalTree).reverse ++ parts) rest := by
  induction cs generalizing parts with
  | nil => rfl
  | cons c cs ih =>
    rw [escape_cons, List.length_cons, ← Nat.add_assoc, List.map_cons, List.reverse_cons,
      List.append_assoc, List.append_assoc, List.singleton_append]
    cases h : isMeta c with
    | true => exact (readBranches?_of_isMeta h _ _).trans ih
    | false => exact (readBranches?_of_not_isMeta h _ _).trans ih

theorem readLazy_of_ne {rest : List Char} (h : rest.head? ≠ some '?') :
    readLazy rest = (false, rest) := by
  unfold readLazy
  split
  · exact absurd rfl h
  · rfl

theorem head?_escape_ne (cs : List Char) : (escape cs ++ ['$']).head? ≠ some '?' := by
  cases cs with
  | nil => decide
  | cons c cs =>
    rw [escape_cons]
    cases h : isMeta c with
    | true => simp
    | false => simpa using ne_of_not_isMeta h (by decide)

theorem readBranches?_front (starred : Bool) {rest : List Char} (h : rest.head? ≠ some '?')
    (fuel : ℕ) :
    ∃ fuel' ≥ fuel, Mode.readBranches? (fuel + (frontChars starred).length) plainMode [] []
        (frontChars starred ++ rest) =
      Mode.readBranches? fuel' plainMode [] (frontTrees starred).reverse rest := by
  cases starred with
  | false => exact ⟨fuel, le_rfl, rfl⟩
  | true =>
    -- the group is closed, so it computes; what the question mark does depends on the rest
    have hgroup : Mode.readBranches? (fuel + 8) plainMode [] [] ("^(.*\\.)?".toList ++ rest) =
        Mode.readBranches? (fuel + 5) plainMode [] [.repetition 0 (some 1) (readLazy rest).1
          (.group true ⟨[], []⟩ (.concat [.repetition 0 none false .dot, literalTree '.'])),
          .anchor .lineStart] (readLazy rest).2 := rfl
    refine ⟨fuel + 5, Nat.le_add_right _ _, hgroup.trans ?_⟩
    rw [readLazy_of_ne h]
    rfl

theorem readBranches?_back (cs : List Char) {fuel : ℕ} (h : cs.length + 2 ≤ fuel) :
    Mode.readBranches? fuel plainMode [] parts (escape cs ++ ['$']) =
      some (concatOf (.anchor .lineEnd :: ((cs.map literalTree).reverse ++ parts)), plainMode,
        []) := by
  obtain ⟨n, rfl⟩ := Nat.exists_eq_add_of_le' h
  rw [Nat.add_comm cs.length, ← Nat.add_assoc, readBranches?_escape]
  rfl

/-! ### Trees -/

theorem treesDepth_cons (tree : Tree) (trees : List Tree) :
    treesDepth (tree :: trees) = max tree.depth (treesDepth trees) := rfl

theorem treesDepth_append (trees trees' : List Tree) :
    treesDepth (trees ++ trees') = max (treesDepth trees) (treesDepth trees') := by
  induction trees with
  | nil => exact (Nat.zero_max _).symm
  | cons tree trees ih =>
    rw [List.cons_append, treesDepth_cons, treesDepth_cons, ih, Nat.max_assoc]

theorem treesDepth_literals (cs : List Char) : treesDepth (cs.map literalTree) = 0 := by
  induction cs with
  | nil => rfl
  | cons c cs ih =>
    rw [List.map_cons, treesDepth_cons, ih]
    rfl

theorem concatOf_of_two_le (h : 2 ≤ parts.length) : concatOf parts = .concat parts.reverse := by
  match parts, h with
  | _ :: _ :: _, _ => rfl

/-- The trees in a row of the pattern of a wildcard. -/
def treesOfWildcard (wildcard : List Char) : List Tree :=
  frontTrees (isStarred wildcard) ++ (bare wildcard).map literalTree ++ [.anchor .lineEnd]

theorem depth_treesOfWildcard (wildcard : List Char) :
    (Tree.concat (treesOfWildcard wildcard)).depth ≤ maxDepth := by
  have hend : treesDepth [.anchor .lineEnd] = 0 := rfl
  have hfront : ∀ starred, treesDepth (frontTrees starred) + 1 ≤ maxDepth := by decide
  have hdepth : ∀ trees, (Tree.concat trees).depth = treesDepth trees + 1 := fun _ => rfl
  rw [hdepth, treesOfWildcard, treesDepth_append, treesDepth_append, treesDepth_literals, hend]
  simpa using hfront (isStarred wildcard)

/-- **The pattern of a wildcard is read as its trees.** -/
theorem ofText?_charsOfWildcard (wildcard : List Char) :
    Tree.ofText? (charsOfWildcard wildcard) = some (.concat (treesOfWildcard wildcard)) := by
  have hfuel : (charsOfWildcard wildcard).length + 1 =
      (escape (bare wildcard)).length + 2 + (frontChars (isStarred wildcard)).length := by
    rw [charsOfWildcard_eq]
    simp
    omega
  obtain ⟨fuel, hle, hread⟩ := readBranches?_front (isStarred wildcard)
    (head?_escape_ne (bare wildcard)) ((escape (bare wildcard)).length + 2)
  have hlength := length_le_escape (bare wildcard)
  rw [readBranches?_back _ (by omega)] at hread
  have hconcat : concatOf (.anchor .lineEnd ::
        (((bare wildcard).map literalTree).reverse ++ (frontTrees (isStarred wildcard)).reverse)) =
      .concat (treesOfWildcard wildcard) := by
    rw [concatOf_of_two_le]
    · simp [treesOfWildcard]
    · simp [frontTrees]
      omega
  rw [hconcat, ← hfuel, ← List.append_assoc, ← charsOfWildcard_eq] at hread
  unfold Tree.ofText?
  rw [← plainMode, hread]
  exact if_pos (depth_treesOfWildcard wildcard)

end Reading

/-! ### Regular expressions -/

/-- The characters that a dot matches. -/
def notLineFeed : CharSet := .complement ⟨[(10, 10)]⟩

/-- The regular expression of the group that may stand in front of a domain. -/
def subdomains : Regex :=
  .repetition 0 (some 1) false
    (.group 1 (.concat [.repetition 0 none false (.set false notLineFeed), .literal ['.']]))

/-- The regular expressions of what a pattern begins with. -/
def front (starred : Bool) : List Regex := .look .textStart :: if starred then [subdomains] else []

/-- The regular expressions of characters that stand for themselves. -/
def literals (cs : List Char) : List Regex := cs.map fun c => .literal [c]

/-- The regular expression of the pattern of a wildcard. -/
def regexOfWildcard (wildcard : String) : Regex :=
  .sequence (front (isStarred wildcard.toList) ++ literals (bare wildcard.toList) ++
    [.look .textEnd])

/-- The pattern of a wildcard is not too large for a regular expression. -/
def Fits (wildcard : String) : Prop := (regexOfWildcard wildcard).fits = true

/-- A tree in front of others, when its regular expression is known. -/
theorem regexes?_cons_of_regex? {c after : Context} {tree : Tree} {r : Regex}
    (h : c.regex? tree = some (r, after)) (trees : List Tree) :
    c.regexes? (tree :: trees) = (after.regexes? trees).map fun rs => (r :: rs.1, rs.2) := by
  have hstep : c.regexes? (tree :: trees) = (c.regex? tree).bind fun r =>
      (r.2.regexes? trees).bind fun rs => some (r.1 :: rs.1, rs.2) := rfl
  rw [hstep, h, Option.bind_some]
  cases after.regexes? trees <;> rfl

theorem regexes?_literals (c : Context) (h : c.flags = .initial) (cs : List Char)
    (trees : List Tree) :
    c.regexes? (cs.map literalTree ++ trees) =
      (c.regexes? trees).map fun r => (literals cs ++ r.1, r.2) := by
  induction cs with
  | nil => simp [literals]
  | cons d cs ih =>
    have hliteral : c.regex? (literalTree d) = some (.literal [d], c) := by
      have hregex : c.regex? (literalTree d) = (c.flags.literal? ⟨d, false⟩).map (·, c) := rfl
      rw [hregex, h]
      rfl
    rw [List.map_cons, List.cons_append, regexes?_cons_of_regex? hliteral, ih, Option.map_map]
    rfl

theorem regexes?_front (starred : Bool) (trees : List Tree) :
    ∃ groups, Context.regexes? ⟨.initial, 0⟩ (frontTrees starred ++ trees) =
      (Context.regexes? ⟨.initial, groups⟩ trees).map fun r => (front starred ++ r.1, r.2) := by
  have hstart : Context.regex? ⟨.initial, 0⟩ (.anchor .lineStart) =
      some (.look .textStart, ⟨.initial, 0⟩) := rfl
  have hsub : Context.regex? ⟨.initial, 0⟩ subdomainsTree =
      some (subdomains, ⟨.initial, 1⟩) := rfl
  cases starred with
  | false =>
    exact ⟨0, regexes?_cons_of_regex? hstart trees⟩
  | true =>
    refine ⟨1, (regexes?_cons_of_regex? hstart (subdomainsTree :: trees)).trans ?_⟩
    rw [regexes?_cons_of_regex? hsub, Option.map_map]
    rfl

theorem regex?_treesOfWildcard (wildcard : String) :
    ∃ c, Context.regex? ⟨.initial, 0⟩ (.concat (treesOfWildcard wildcard.toList)) =
      some (regexOfWildcard wildcard, c) := by
  obtain ⟨groups, hfront⟩ := regexes?_front (isStarred wildcard.toList)
    ((bare wildcard.toList).map literalTree ++ [.anchor .lineEnd])
  have hend : Context.regexes? ⟨.initial, groups⟩ [.anchor .lineEnd] =
      some ([.look .textEnd], ⟨.initial, groups⟩) := rfl
  rw [regexes?_literals _ rfl, hend, ← List.append_assoc] at hfront
  refine ⟨⟨.initial, groups⟩, ?_⟩
  have hconcat : ∀ parts, Context.regex? ⟨.initial, 0⟩ (.concat parts) =
      (Context.regexes? ⟨.initial, 0⟩ parts).bind fun rs => some (.sequence rs.1, rs.2) :=
    fun _ => rfl
  rw [hconcat, treesOfWildcard, hfront, regexOfWildcard, List.append_assoc]
  rfl

/-- **The pattern of a wildcard is valid unless it is too large.** -/
theorem ofPattern?_ofWildcard (wildcard : String) :
    Regex.ofPattern? (ofWildcard wildcard) =
      if (regexOfWildcard wildcard).fits then some (regexOfWildcard wildcard) else none := by
  obtain ⟨c, hregex⟩ := regex?_treesOfWildcard wildcard
  rw [ofPattern?, ofWildcard, String.toList_ofList, ofText?_charsOfWildcard]
  simp only [Option.bind_eq_bind, Option.bind_some, ofTree?, hregex]

/-! ### Matches -/

section Matches

variable {text : List Char} {i j : ℕ}

theorem contains_notLineFeed (c : Char) : notLineFeed.contains c = true ↔ c ≠ '\n' := by
  have hranges : notLineFeed = ⟨[(0, 9), (11, 0x10FFFF)]⟩ := rfl
  have hvalid : c.toNat ≤ 0x10FFFF := by
    have hlt : c.toNat < 0xD800 ∨ 0xDFFF < c.toNat ∧ c.toNat < 0x110000 := c.valid
    omega
  have heq : c = '\n' ↔ c.toNat = 10 :=
    ⟨fun h => h ▸ rfl, fun h => Char.ext (UInt32.toNat_inj.1 h)⟩
  rw [hranges, CharSet.contains, CharSet.hasCode, ne_eq, heq]
  simp
  omega

theorem spansInRow_append {rs rs' : List Regex} :
    SpansInRow text (rs ++ rs') i j ↔ ∃ k, SpansInRow text rs i k ∧ SpansInRow text rs' k j := by
  induction rs generalizing i with
  | nil => simp [spansInRow_nil_iff]
  | cons r rs ih =>
    simp only [List.cons_append, spansInRow_cons_iff, ih]
    constructor
    · rintro ⟨k, hk, l, hl, hj⟩
      exact ⟨l, ⟨k, hk, hl⟩, hj⟩
    · rintro ⟨l, ⟨k, hk, hl⟩, hj⟩
      exact ⟨k, hk, l, hl, hj⟩

theorem spansInRow_literals (cs : List Char) :
    SpansInRow text (literals cs) i j ↔ cs <+: text.drop i ∧ j = i + cs.length := by
  induction cs generalizing i with
  | nil => simp [literals, spansInRow_nil_iff]
  | cons c cs ih =>
    rw [literals, List.map_cons, spansInRow_cons_iff, ← literals, cons_prefix_drop_iff]
    simp only [ih, spans_literal_iff, cons_prefix_drop_iff, List.nil_prefix, and_true,
      List.length_singleton]
    constructor
    · rintro ⟨k, ⟨hc, rfl⟩, hcs, rfl⟩
      exact ⟨⟨hc, hcs⟩, by simp; omega⟩
    · rintro ⟨⟨hc, hcs⟩, rfl⟩
      exact ⟨i + 1, ⟨hc, rfl⟩, hcs, by simp; omega⟩

/-- Rounds of one character each pass over characters of the set. -/
theorem rounds_set {bytes : Bool} {s : CharSet} {n : ℕ} (hi : i ≤ text.length) :
    Rounds (Spans text (.set bytes s)) n i j ↔
      j = i + n ∧ j ≤ text.length ∧ ∀ c ∈ (text.drop i).take n, s.contains c = true := by
  induction n generalizing i with
  | zero =>
    simp only [Rounds, Nat.add_zero, List.take_zero, List.not_mem_nil, false_imp_iff, implies_true,
      and_true]
    exact ⟨fun h => ⟨h, h ▸ hi⟩, fun h => h.1⟩
  | succ n ih =>
    by_cases hlt : i < text.length
    · have hstep : ∀ k, Spans text (.set bytes s) i k ↔ s.contains text[i] = true ∧ k = i + 1 := by
        intro k
        simp [spans_set_iff, List.getElem?_eq_getElem hlt]
      simp only [Rounds, hstep, List.drop_eq_getElem_cons hlt, List.take_succ_cons,
        List.forall_mem_cons]
      constructor
      · rintro ⟨k, ⟨hc, rfl⟩, hrounds⟩
        obtain ⟨rfl, hle, hall⟩ := (ih hlt).1 hrounds
        exact ⟨by omega, hle, hc, hall⟩
      · rintro ⟨rfl, hle, hc, hall⟩
        exact ⟨i + 1, ⟨hc, rfl⟩, (ih hlt).2 ⟨by omega, hle, hall⟩⟩
    · refine iff_of_false ?_ fun h => by omega
      rintro ⟨k, ⟨⟨c, hc, -⟩, -⟩, -⟩
      exact hlt (List.getElem?_eq_some_iff.1 hc).1

theorem spans_subdomains_iff_exists :
    Spans text subdomains 0 j ↔ j = 0 ∨
      ∃ k, (∃ n, Rounds (Spans text (.set false notLineFeed)) n 0 k) ∧
        text[k]? = some '.' ∧ j = k + 1 := by
  have hgroup : ∀ l, Spans text (.group 1 (.concat
      [.repetition 0 none false (.set false notLineFeed), .literal ['.']])) 0 l ↔
      ∃ k, (∃ n, Rounds (Spans text (.set false notLineFeed)) n 0 k) ∧
        text[k]? = some '.' ∧ l = k + 1 := by
    intro l
    simp [spans_group_iff, spans_concat_iff, spans_repetition_iff, spans_literal_iff,
      spansInRow_cons_iff, spansInRow_nil_iff, cons_prefix_drop_iff]
  rw [subdomains, spans_repetition_iff]
  constructor
  · rintro ⟨n, -, hn, hrounds⟩
    match n, hn 1 rfl with
    | 0, _ => exact .inl hrounds
    | 1, _ =>
      obtain ⟨l, hl, rfl⟩ := hrounds
      exact .inr ((hgroup _).1 hl)
  · rintro (hj | hj)
    · exact ⟨0, le_rfl, fun m _ => Nat.zero_le _, hj⟩
    · exact ⟨1, Nat.zero_le _, fun m hm => by cases hm; exact le_rfl, j, (hgroup j).2 hj, rfl⟩

theorem spans_subdomains (hj : j ≤ text.length) :
    Spans text subdomains 0 j ↔ j = 0 ∨ ∃ p, '\n' ∉ p ∧ text.take j = p ++ ['.'] := by
  rw [spans_subdomains_iff_exists]
  refine or_congr_right ?_
  constructor
  · rintro ⟨k, ⟨n, hrounds⟩, hdot, rfl⟩
    obtain ⟨hk, -, hall⟩ := (rounds_set (Nat.zero_le _)).1 hrounds
    obtain rfl : k = n := by omega
    refine ⟨text.take k, fun hmem => ?_, by rw [List.take_add_one, hdot]; rfl⟩
    exact (contains_notLineFeed '\n').1 (hall _ hmem) rfl
  · rintro ⟨p, hp, htake⟩
    have hlength : p.length + 1 = j := by
      have := congrArg List.length htake
      rw [List.length_take, List.length_append, List.length_singleton] at this
      omega
    subst hlength
    have htext : text = p ++ '.' :: text.drop (p.length + 1) := by
      conv_lhs => rw [← List.take_append_drop (p.length + 1) text, htake, List.append_assoc]
      rfl
    refine ⟨p.length, ⟨p.length, (rounds_set (Nat.zero_le _)).2 ⟨by omega, by omega, ?_⟩⟩, ?_, rfl⟩
    · intro c hc
      rw [List.drop_zero, htext, List.take_left' rfl] at hc
      exact (contains_notLineFeed c).2 fun heq => hp (heq ▸ hc)
    · rw [htext]
      simp

theorem spans_textStart (hi : i ≤ text.length) :
    Spans text (.look .textStart) i j ↔ i = 0 ∧ j = 0 := by
  rw [spans_look_iff]
  cases i with
  | zero => simp [Look.holds, charBefore?]
  | succ i =>
    have hlt : i < text.length := hi
    simp [Look.holds, charBefore?, List.getElem?_eq_getElem hlt]

theorem spans_textEnd (hi : i ≤ text.length) :
    Spans text (.look .textEnd) i j ↔ i = text.length ∧ j = i := by
  rw [spans_look_iff]
  refine and_congr_left fun _ => ?_
  rw [Look.holds, Option.isNone_iff_eq_none, List.getElem?_eq_none_iff]
  omega

theorem spansInRow_front (starred : Bool) (hi : i ≤ text.length) (hj : j ≤ text.length) :
    SpansInRow text (front starred) i j ↔
      i = 0 ∧ (j = 0 ∨ starred = true ∧ ∃ p, '\n' ∉ p ∧ text.take j = p ++ ['.']) := by
  cases starred with
  | false =>
    simp [front, spansInRow_cons_iff, spansInRow_nil_iff, spans_textStart hi]
  | true =>
    simp [front, spansInRow_cons_iff, spansInRow_nil_iff, spans_textStart hi,
      ← spans_subdomains hj, and_assoc]

/-- Literals up to the end of the text are all that is left of it. -/
theorem spansInRow_back (cs : List Char) (hi : i ≤ text.length) :
    SpansInRow text (literals cs ++ [.look .textEnd]) i j ↔
      text.drop i = cs ∧ j = text.length := by
  rw [spansInRow_append]
  simp only [spansInRow_literals, spansInRow_cons_iff, spansInRow_nil_iff]
  constructor
  · rintro ⟨k, ⟨hstarts, rfl⟩, l, hend, rfl⟩
    have hlength := hstarts.length_le
    rw [List.length_drop] at hlength
    obtain ⟨hall, rfl⟩ := (spans_textEnd (by omega)).1 hend
    exact ⟨(hstarts.eq_of_length (by rw [List.length_drop]; omega)).symm, hall⟩
  · rintro ⟨rfl, rfl⟩
    have hlength : i + (text.drop i).length = text.length := by
      rw [List.length_drop]
      omega
    exact ⟨_, ⟨List.prefix_rfl, rfl⟩, _, (spans_textEnd (by omega)).2 ⟨hlength, rfl⟩, hlength.symm⟩

/-- The text is the domain of a wildcard or, if there is a star in front, ends in a dot and the
domain, after characters on one line. -/
def Covers (wildcard text : List Char) : Prop :=
  text = bare wildcard ∨
    isStarred wildcard = true ∧ ∃ p, '\n' ∉ p ∧ text = p ++ '.' :: bare wildcard

/-- **The pattern of a wildcard matches what the wildcard covers.** -/
theorem isMatch_regexOfWildcard (wildcard text : String) :
    (regexOfWildcard wildcard).isMatch text = true ↔ Covers wildcard.toList text.toList := by
  rw [isMatch_iff, Covers]
  generalize text.toList = text
  have hrow : ∀ {i j}, i ≤ text.length → (Spans text (regexOfWildcard wildcard) i j ↔
      ∃ k, SpansInRow text (front (isStarred wildcard.toList)) i k ∧
        SpansInRow text (literals (bare wildcard.toList) ++ [.look .textEnd]) k j) := by
    intro i j hi
    rw [regexOfWildcard, spans_sequence _ hi, List.append_assoc, spansInRow_append]
  constructor
  · -- `k` is where the front ends and the domain begins
    rintro ⟨i, j, hi, hspans⟩
    obtain ⟨k, hfront, hback⟩ := (hrow hi).1 hspans
    have hk := (advances_spansInRow text _ hi hfront).2
    obtain ⟨hdrop, -⟩ := (spansInRow_back _ hk).1 hback
    obtain ⟨rfl, rfl | ⟨hstarred, p, hp, htake⟩⟩ := (spansInRow_front _ hi hk).1 hfront
    · exact .inl hdrop
    · refine .inr ⟨hstarred, p, hp, ?_⟩
      rw [← hdrop, List.append_cons, ← htake, List.take_append_drop]
  · rintro (htext | ⟨hstarred, p, hp, htext⟩)
    · refine ⟨0, text.length, Nat.zero_le _, (hrow (Nat.zero_le _)).2 ⟨0, ?_, ?_⟩⟩
      · exact (spansInRow_front _ (Nat.zero_le _) (Nat.zero_le _)).2 ⟨rfl, .inl rfl⟩
      · exact (spansInRow_back _ (Nat.zero_le _)).2 ⟨htext, rfl⟩
    · have hle : p.length + 1 ≤ text.length := by
        rw [htext]
        simp
      refine ⟨0, text.length, Nat.zero_le _, (hrow (Nat.zero_le _)).2 ⟨p.length + 1, ?_, ?_⟩⟩
      · refine (spansInRow_front _ (Nat.zero_le _) hle).2 ⟨rfl, .inr ⟨hstarred, p, hp, ?_⟩⟩
        rw [htext, List.append_cons]
        exact List.take_left' (by simp)
      · refine (spansInRow_back _ hle).2 ⟨?_, rfl⟩
        rw [htext, List.append_cons]
        exact List.drop_left' (by simp)

end Matches

/-! ### Matches of a wildcard -/

/-- Behind a star stands the domain of the wildcard, its subdomains are covered, too. -/
theorem covers_star_iff {rest : List Char} {text : String} :
    Covers ('*' :: rest) text.toList ↔
      text = String.ofList (rest.dropWhile (· == '.')) ∨
        ∃ p : String, '\n' ∉ p.toList ∧
          text = p ++ "." ++ String.ofList (rest.dropWhile (· == '.')) := by
  have hbare : bare ('*' :: rest) = rest.dropWhile (· == '.') := rfl
  have hstarred : isStarred ('*' :: rest) = true := rfl
  rw [Covers, hbare, hstarred, ← String.toList_inj, String.toList_ofList]
  refine or_congr_right ⟨?_, ?_⟩
  · rintro ⟨-, p, hp, htext⟩
    refine ⟨String.ofList p, by rwa [String.toList_ofList], ?_⟩
    rw [← String.toList_inj, htext]
    simp
  · rintro ⟨p, hp, rfl⟩
    exact ⟨rfl, p.toList, hp, by simp⟩

theorem covers_iff_of_ne_star {wildcard : List Char} (h : ∀ rest, wildcard ≠ '*' :: rest)
    {text : List Char} : Covers wildcard text ↔ text = wildcard := by
  rw [Covers, bare, isStarred_eq_false h]
  simp

/-- **A wildcard matches what it stands for and nothing else**: behind a star, the rest without the
dots in front of it, alone or after any characters on one line and a dot; without a star, itself.
No character of it but the star has a meaning of its own. -/
theorem matchesAny_ofWildcard_iff {wildcard : String}
    (h : (ofPattern? (ofWildcard wildcard)).isSome = true) (text : String) :
    matchesAny [ofWildcard wildcard] text = true ↔
      match wildcard.toList with
      | '*' :: rest =>
        text = String.ofList (rest.dropWhile (· == '.')) ∨
          ∃ p : String, '\n' ∉ p.toList ∧
            text = p ++ "." ++ String.ofList (rest.dropWhile (· == '.'))
      | _ => text = wildcard := by
  have hvalid : ofPattern? (ofWildcard wildcard) = some (regexOfWildcard wildcard) := by
    rw [ofPattern?_ofWildcard] at h ⊢
    split_ifs at h ⊢
    · rfl
    · cases h
  have hmatch : matchesAny [ofWildcard wildcard] text =
      (regexOfWildcard wildcard).isMatch text := by
    rw [matchesAny, anyMatches, List.filterMap_cons, hvalid]
    simp
  rw [hmatch, isMatch_regexOfWildcard]
  split
  · next rest hstar => rw [hstar, covers_star_iff]
  · next hstar => rw [covers_iff_of_ne_star hstar, String.toList_inj]

/-- Brackets, a second star and a plus stand for themselves. -/
theorem matchesAny_ofWildcard_iff_of_meta :
    (ofPattern? (ofWildcard "*..[a-z]*+")).isSome = true ∧
      matchesAny [ofWildcard "*..[a-z]*+"] "\u00e9 x.[a-z]*+" = true ∧
      ¬matchesAny [ofWildcard "*..[a-z]*+"] "b.b" = true := by
  have hfits : (regexOfWildcard "*..[a-z]*+").fits = true := by decide +kernel
  have h : (ofPattern? (ofWildcard "*..[a-z]*+")).isSome = true := by
    rw [ofPattern?_ofWildcard, if_pos hfits]
    rfl
  have hmatch := matchesAny_ofWildcard_iff h
  have hlist : "*..[a-z]*+".toList = '*' :: "..[a-z]*+".toList := by decide
  have hrest : String.ofList ("..[a-z]*+".toList.dropWhile (· == '.')) = "[a-z]*+" := by decide
  simp only [hlist, hrest] at hmatch
  refine ⟨h, (hmatch _).2 (.inr ⟨"\u00e9 x", by decide, by decide⟩), ?_⟩
  rw [hmatch]
  rintro (heq | ⟨p, -, heq⟩)
  · exact absurd heq (by decide)
  · -- what ends in a dot and the domain is longer than the text
    have hlength := congrArg String.length heq
    rw [String.length_append, String.length_append] at hlength
    have hshort : "b.b".length = 3 := rfl
    have hlong : "[a-z]*+".length = 7 := rfl
    omega

/-! ### Sizes -/

section Sizes

open Regex.Automaton

variable {d : Direction}

/-- Literals in a row are joined. -/
theorem joinLiterals_literals (cs : List Char) (l : Look) :
    joinLiterals (literals cs ++ [.look l]) =
      (if cs = [] then [] else [.literal cs]) ++ [.look l] := by
  induction cs with
  | nil => rfl
  | cons c cs ih =>
    have hliterals : literals (c :: cs) = .literal [c] :: literals cs := rfl
    rw [hliterals, List.cons_append, joinLiterals, ih]
    by_cases hcs : cs = []
    · subst hcs
      rfl
    · simp [hcs]

/-- The parts in a row of the pattern of a wildcard. -/
def partsOfWildcard (wildcard : List Char) : List Regex :=
  front (isStarred wildcard) ++
    ((if bare wildcard = [] then [] else [.literal (bare wildcard)]) ++ [.look .textEnd])

theorem regexOfWildcard_eq (wildcard : String) :
    regexOfWildcard wildcard = .concat (partsOfWildcard wildcard.toList) := by
  have hparts : ∀ starred cs,
      (front starred ++ literals cs ++ [Regex.look .textEnd]).flatMap partsInRow =
        front starred ++ (literals cs ++ [.look .textEnd]) := by
    intro starred cs
    have hfront : (front starred).flatMap partsInRow = front starred := by cases starred <;> rfl
    have hliterals : (literals cs).flatMap partsInRow = literals cs := by
      rw [literals, List.flatMap_map]
      exact List.map_eq_flatMap.symm
    rw [List.flatMap_append, List.flatMap_append, hfront, hliterals, List.append_assoc]
    rfl
  have hjoin : ∀ starred rest,
      joinLiterals (front starred ++ rest) = front starred ++ joinLiterals rest := by
    intro starred rest
    cases starred <;> rfl
  rw [regexOfWildcard, Regex.sequence, hparts, hjoin, joinLiterals_literals, ← partsOfWildcard]
  -- a row of two parts or more is not simplified
  have htwo : 2 ≤ (partsOfWildcard wildcard.toList).length := by
    simp [partsOfWildcard, front]
    omega
  match partsOfWildcard wildcard.toList, htwo with
  | _ :: _ :: _, _ => rfl

theorem setBytes_notLineFeed : setBytes notLineFeed ≤ 3000 := by
  decide +kernel

/-- The bytes that a part of the pattern of a wildcard takes at most. -/
def partBytes : Regex → ℕ
  | .literal cs => Size.stateBytes * Text.byteLength cs
  | .look _ => Size.stateBytes
  | .repetition _ none _ _ => 3100
  | _ => 3500

/-- The characters on one line in front of a dot. -/
theorem takes_lineStar :
    Builder.Takes 3100 (build d (.repetition 0 none false (.set false notLineFeed))) :=
  takes_star ((takes_set false notLineFeed).mono setBytes_notLineFeed) (by decide +kernel) false

theorem takes_subdomains : Builder.Takes 3500 (build d subdomains) := by
  have hrow : ∀ r ∈ [Regex.repetition 0 none false (.set false notLineFeed), .literal ['.']],
      Builder.Takes (partBytes r) (build d r) := by
    simp only [List.forall_mem_cons]
    exact ⟨takes_lineStar, takes_literal _, by simp⟩
  exact (takes_optional (takes_group (takes_concat hrow) 1) false).mono (by decide)

theorem takes_partsOfWildcard (wildcard : List Char) :
    ∀ r ∈ partsOfWildcard wildcard, Builder.Takes (partBytes r) (build d r) := by
  intro r hr
  rw [partsOfWildcard, front] at hr
  simp only [List.mem_append, List.mem_cons, List.not_mem_nil, or_false] at hr
  rcases hr with (rfl | hfront) | hbare | rfl
  · exact takes_look _
  · split_ifs at hfront
    · obtain rfl := List.mem_singleton.1 hfront
      exact takes_subdomains
    · cases hfront
  · split_ifs at hbare
    · cases hbare
    · obtain rfl := List.mem_singleton.1 hbare
      exact takes_literal _
  · exact takes_look _

/-- **The pattern of a wildcard is small enough**, unless the wildcard has hundreds of thousands of
bytes. -/
theorem fits_of_byteLength_le {wildcard : String}
    (h : Text.byteLength (bare wildcard.toList) ≤ 300000) : Fits wildcard := by
  have htotal : ((partsOfWildcard wildcard.toList).map fun r =>
      partBytes r + Size.branchBytes).sum + 300 ≤ Size.maxBytes := by
    rw [partsOfWildcard, front]
    split_ifs <;> simp [partBytes, subdomains, Size.stateBytes, Size.branchBytes, Size.maxBytes] <;>
      omega
  rw [Fits, regexOfWildcard_eq]
  exact fits_of_takes (fun d => takes_concat (takes_partsOfWildcard _)) htotal

end Sizes

end ContentBlocking.DomainPattern
