import ContentBlocking.Json.Reader
import ContentBlocking.Proofs.Json.Tokens
import ContentBlocking.Proofs.Text.Pieces

/-!
# The grammar of JSON

The reader of syntax trees goes by the first token of a text; what it does there comes first.
`Node.SpelledAs` says how a value may be spelled, with white space around it.  This is the grammar
of JSON, and knows nothing of readers.  The reader reads every spelling as the value that it spells
(`Node.SpelledAs.isRead`).

The reader needs two units of fuel for each character, one for the step into an array or object and
one for the step to its next item or member.
-/

namespace ContentBlocking.Json

open Text (joinWith)

/-! ### First characters -/

/-- A character that starts a value. -/
def startsValue (c : Char) : Bool :=
  c.isDigit || ['n', 't', 'f', '"', '[', '\x7b', '-'].contains c

theorem not_isSpace_of_startsValue {c : Char} (h : startsValue c = true) : isSpace c = false := by
  by_contra hspace
  simp only [isSpace, Bool.not_eq_false, Bool.or_eq_true, beq_iff_eq] at hspace
  rcases hspace with ((rfl | rfl) | rfl) | rfl <;> exact absurd h (by decide)

/-- The first token of a text is that of a value. -/
def StartsValue (cs : List Char) : Prop :=
  ∃ c tail, skipSpace cs = c :: tail ∧ startsValue c = true

theorem StartsValue.cons {c : Char} (h : startsValue c = true) (tail : List Char) :
    StartsValue (c :: tail) :=
  ⟨c, tail, skipSpace_cons (not_isSpace_of_startsValue h) tail, h⟩

theorem StartsValue.spacing_append {before cs : List Char} (h : StartsValue cs)
    (hb : IsSpacing before) : StartsValue (before ++ cs) := by
  obtain ⟨c, tail, hskip, hc⟩ := h
  exact ⟨c, tail, (skipSpace_append hb cs).trans hskip, hc⟩

/-! ### The reader at the first token -/

section Tokens

variable {cs tail rest : List Char} {c : Char} (fuel : ℕ)

/-- A reader of values sees of a text what stands from its first token on. -/
theorem readNode_congr {cs cs' : List Char} (h : skipSpace cs = skipSpace cs') :
    readNode fuel cs = readNode fuel cs' := by
  cases fuel with
  | zero => rfl
  | succ fuel => rw [readNode, readNode, h]

theorem readNode_skipSpace (cs : List Char) : readNode fuel (skipSpace cs) = readNode fuel cs :=
  readNode_congr fuel (skipSpace_skipSpace cs)

theorem readNode_spacing_append {before : List Char} (hb : IsSpacing before) (cs : List Char) :
    readNode fuel (before ++ cs) = readNode fuel cs :=
  readNode_congr fuel (skipSpace_append hb cs)

/-- The items of an array are the first one and, behind a comma, the others. -/
theorem readItems_succ (cs : List Char) : readItems (fuel + 1) cs =
    match readNode fuel cs with
    | (item, none) => ([item], .malformed, none)
    | (item, some rest) =>
      match skipSpace rest with
      | [] => ([item], .truncated, none)
      | ']' :: rest => ([item], .done, some rest)
      | ',' :: rest =>
        match skipSpace rest with
        | [] => ([item], .truncatedAfterComma, none)
        | ']' :: _ => ([item], .malformed, none)
        | rest => (item :: (readItems fuel rest).1, (readItems fuel rest).2)
      | _ => ([item], .malformed, none) := rfl

theorem readItems_skipSpace (cs : List Char) :
    readItems fuel (skipSpace cs) = readItems fuel cs := by
  cases fuel with
  | zero => rfl
  | succ fuel => rw [readItems_succ, readItems_succ, readNode_skipSpace]

/-- A numeral starts like no other value. -/
theorem readNode_numeral (hc : c = '-' ∨ c.isDigit = true) (tail : List Char) :
    readNode (fuel + 1) (c :: tail) = match readNumeral (c :: tail) with
      | .ok (n, rest) => (.number n, some rest)
      | .error atEnd => (.brokenNumeral atEnd, none) := by
  have hskip : skipSpace (c :: tail) = c :: tail := by
    refine skipSpace_cons (not_isSpace_of_startsValue ?_) tail
    rcases hc with rfl | hc
    · decide
    · simp [startsValue, hc]
  rw [readNode, hskip]
  split
  · next heq => cases heq
  iterate 6
    · next heq =>
      obtain ⟨rfl, -⟩ := List.cons.inj heq
      exact absurd hc (by decide)
  · next heq =>
    obtain ⟨rfl, rfl⟩ := List.cons.inj heq
    exact if_pos hc

theorem readNode_quoted (cs : List Char) : readNode (fuel + 1) ('"' :: cs) =
    (.string (readQuoted cs).1, (readQuoted cs).2) := rfl

/-- Behind the bracket that opens an array. -/
theorem readNode_bracket (cs : List Char) : readNode (fuel + 1) ('[' :: cs) =
    match skipSpace cs with
    | [] => (.array [] .truncated, none)
    | ']' :: rest => (.array [] .done, some rest)
    | rest => (.array (readItems fuel rest).1 (readItems fuel rest).2.1,
        (readItems fuel rest).2.2) := rfl

/-- An array that holds a value is read item by item. -/
theorem readNode_array (h : StartsValue cs) : readNode (fuel + 1) ('[' :: cs) =
    (.array (readItems fuel cs).1 (readItems fuel cs).2.1, (readItems fuel cs).2.2) := by
  obtain ⟨c, tail, hskip, hc⟩ := h
  rw [readNode_bracket, ← readItems_skipSpace fuel cs, hskip]
  split
  · next heq => cases heq
  · next heq =>
    obtain ⟨rfl, -⟩ := List.cons.inj heq
    exact absurd hc (by decide)
  · rfl

theorem readNode_emptyArray (h : skipSpace cs = ']' :: rest) :
    readNode (fuel + 1) ('[' :: cs) = (.array [] .done, some rest) := by
  rw [readNode_bracket, h]
  rfl

/-- An item with a comma behind it. -/
theorem readItems_comma {node : Node} {more : List Char}
    (hread : readNode fuel cs = (node, some rest)) (hrest : skipSpace rest = ',' :: more)
    (hmore : StartsValue more) : readItems (fuel + 1) cs =
      (node :: (readItems fuel more).1, (readItems fuel more).2) := by
  obtain ⟨c, tail, hskip, hc⟩ := hmore
  simp only [readItems_succ, hread, hrest]
  rw [← readItems_skipSpace fuel more, hskip]
  split
  · next heq => cases heq
  · next heq =>
    obtain ⟨rfl, -⟩ := List.cons.inj heq
    exact absurd hc (by decide)
  · rfl

theorem readItems_bracket {node : Node} {after : List Char}
    (hread : readNode fuel cs = (node, some rest)) (hrest : skipSpace rest = ']' :: after) :
    readItems (fuel + 1) cs = ([node], .done, some after) := by
  simp only [readItems_succ, hread, hrest]

/-- Behind the brace that opens an object. -/
theorem readNode_brace (cs : List Char) : readNode (fuel + 1) ('\x7b' :: cs) =
    match skipSpace cs with
    | [] => (.object [] .truncated, none)
    | '\x7d' :: rest => (.object [] .done, some rest)
    | '"' :: rest => (.object (readMembers fuel rest).1 (readMembers fuel rest).2.1,
        (readMembers fuel rest).2.2)
    | rest => (.object [] (.stray (readNode fuel rest).1.mismatch), none) := rfl

/-- An object that holds a quoted text is read member by member. -/
theorem readNode_object (h : skipSpace cs = '"' :: tail) : readNode (fuel + 1) ('\x7b' :: cs) =
    (.object (readMembers fuel tail).1 (readMembers fuel tail).2.1,
      (readMembers fuel tail).2.2) := by
  rw [readNode_brace, h]
  rfl

theorem readNode_emptyObject (h : skipSpace cs = '\x7d' :: rest) :
    readNode (fuel + 1) ('\x7b' :: cs) = (.object [] .done, some rest) := by
  rw [readNode_brace, h]
  rfl

/-- The members of an object are the first one and, behind a comma, the others. -/
theorem readMembers_succ (cs : List Char) : readMembers (fuel + 1) cs =
    match readQuoted cs with
    | (name, none) => ([(name, .absent)], .malformed, none)
    | (name, some rest) =>
      match skipSpace rest with
      | [] => ([(name, .absent)], .malformed, none)
      | ':' :: rest =>
        match readNode fuel rest with
        | (value, none) => ([(name, value)], .malformed, none)
        | (value, some rest) =>
          match skipSpace rest with
          | [] => ([(name, value)], .truncated, none)
          | '\x7d' :: rest => ([(name, value)], .done, some rest)
          | ',' :: rest =>
            match skipSpace rest with
            | [] => ([(name, value)], .truncatedAfterComma, none)
            | '"' :: rest =>
              ((name, value) :: (readMembers fuel rest).1, (readMembers fuel rest).2)
            | _ => ([(name, value)], .malformed, none)
          | _ => ([(name, value)], .malformed, none)
      | _ => ([(name, .junk)], .malformed, none) := rfl

/-- A member with a comma behind it. -/
theorem readMembers_comma {name : Quoted} {value : Node} {behindName behindValue more : List Char}
    (hname : readQuoted cs = (name, some behindName)) (hcolon : skipSpace behindName = ':' :: tail)
    (hvalue : readNode fuel tail = (value, some behindValue))
    (hcomma : skipSpace behindValue = ',' :: rest) (hrest : skipSpace rest = '"' :: more) :
    readMembers (fuel + 1) cs =
      ((name, value) :: (readMembers fuel more).1, (readMembers fuel more).2) := by
  simp only [readMembers_succ, hname, hcolon, hvalue, hcomma, hrest]

theorem readMembers_brace {name : Quoted} {value : Node} {behindName behindValue : List Char}
    (hname : readQuoted cs = (name, some behindName)) (hcolon : skipSpace behindName = ':' :: tail)
    (hvalue : readNode fuel tail = (value, some behindValue))
    (hbrace : skipSpace behindValue = '\x7d' :: rest) :
    readMembers (fuel + 1) cs = ([(name, value)], .done, some rest) := by
  simp only [readMembers_succ, hname, hcolon, hvalue, hbrace]

end Tokens

/-! ### Spellings -/

/-- A member of an object with the spellings of its name and its value. -/
structure SpelledMember where
  name : Quoted
  nameChars : List Char
  value : Node
  valueChars : List Char

namespace SpelledMember

/-- The member without its spelling. -/
def member (m : SpelledMember) : Quoted × Node := (m.name, m.value)

/-- The spelling of a member. -/
def chars (m : SpelledMember) : List Char := m.nameChars ++ ':' :: m.valueChars

end SpelledMember

/-- The ways to spell a value; white space may stand on both sides of it. -/
inductive Node.SpelledAs : Node → List Char → Prop
  | wordNull : SpelledAs .null ['n', 'u', 'l', 'l']
  | wordTrue : SpelledAs (.bool true) ['t', 'r', 'u', 'e']
  | wordFalse : SpelledAs (.bool false) ['f', 'a', 'l', 's', 'e']
  | number {n : Numeral} {cs : List Char} (h : n.SpelledAs cs) : SpelledAs (.number n) cs
  | string {q : Quoted} {cs : List Char} (h : q.SpelledAs cs) : SpelledAs (.string q) cs
  | emptyArray {cs : List Char} (h : IsSpacing cs) :
      SpelledAs (.array [] .done) ('[' :: (cs ++ [']']))
  | array {items : List (Node × List Char)} (hne : items ≠ [])
      (h : ∀ i ∈ items, SpelledAs i.1 i.2) :
      SpelledAs (.array (items.map Prod.fst) .done)
        ('[' :: (joinWith ',' (items.map Prod.snd) ++ [']']))
  | emptyObject {cs : List Char} (h : IsSpacing cs) :
      SpelledAs (.object [] .done) ('\x7b' :: (cs ++ ['\x7d']))
  | object {members : List SpelledMember} (hne : members ≠ [])
      (hname : ∀ m ∈ members, SpelledAs (.string m.name) m.nameChars)
      (hvalue : ∀ m ∈ members, SpelledAs m.value m.valueChars) :
      SpelledAs (.object (members.map SpelledMember.member) .done)
        ('\x7b' :: (joinWith ',' (members.map SpelledMember.chars) ++ ['\x7d']))
  | spaced {node : Node} {before cs after : List Char} (hb : IsSpacing before)
      (ha : IsSpacing after) (h : SpelledAs node cs) : SpelledAs node (before ++ (cs ++ after))

section Spacing

variable {after : List Char}

/-- White space may stand in front of the bracket that closes an array. -/
theorem Node.SpelledAs.array_spacing {items : List (Node × List Char)} (hne : items ≠ [])
    (h : ∀ i ∈ items, i.1.SpelledAs i.2) (hafter : IsSpacing after) :
    (Node.array (items.map Prod.fst) .done).SpelledAs
      ('[' :: (joinWith ',' (items.map Prod.snd) ++ (after ++ [']']))) := by
  obtain ⟨items, item, rfl⟩ := (List.eq_nil_or_concat items).resolve_left hne
  rw [List.concat_eq_append, List.forall_mem_append, List.forall_mem_singleton] at h
  have hspelled : ∀ i ∈ items ++ [(item.1, item.2 ++ after)], i.1.SpelledAs i.2 := by
    rw [List.forall_mem_append, List.forall_mem_singleton]
    exact ⟨h.1, .spaced .nil hafter h.2⟩
  have harray := Node.SpelledAs.array (by simp) hspelled
  rw [List.map_append, List.map_append, List.map_singleton, List.map_singleton,
    Text.joinWith_concat_append, List.append_assoc] at harray
  rw [List.concat_eq_append, List.map_append, List.map_append]
  exact harray

/-- White space may stand in front of the brace that closes an object. -/
theorem Node.SpelledAs.object_spacing {members : List SpelledMember} (hne : members ≠ [])
    (hname : ∀ m ∈ members, (Node.string m.name).SpelledAs m.nameChars)
    (hvalue : ∀ m ∈ members, m.value.SpelledAs m.valueChars) (hafter : IsSpacing after) :
    (Node.object (members.map SpelledMember.member) .done).SpelledAs
      ('\x7b' :: (joinWith ',' (members.map SpelledMember.chars) ++ (after ++ ['\x7d']))) := by
  obtain ⟨members, m, rfl⟩ := (List.eq_nil_or_concat members).resolve_left hne
  rw [List.concat_eq_append, List.forall_mem_append, List.forall_mem_singleton] at hname hvalue
  let last : SpelledMember := { m with valueChars := m.valueChars ++ after }
  have hlast : last.chars = m.chars ++ after := by simp [last, SpelledMember.chars]
  have hname' : ∀ m ∈ members ++ [last], (Node.string m.name).SpelledAs m.nameChars := by
    rw [List.forall_mem_append, List.forall_mem_singleton]
    exact hname
  have hvalue' : ∀ m ∈ members ++ [last], m.value.SpelledAs m.valueChars := by
    rw [List.forall_mem_append, List.forall_mem_singleton]
    exact ⟨hvalue.1, .spaced .nil hafter hvalue.2⟩
  have hobject := Node.SpelledAs.object (by simp) hname' hvalue'
  rw [List.map_append, List.map_append, List.map_singleton, List.map_singleton, hlast,
    Text.joinWith_concat_append, List.append_assoc] at hobject
  rw [List.concat_eq_append, List.map_append, List.map_append]
  exact hobject

end Spacing

/-- A text that is JSON by its grammar. -/
def IsJson (text : String) : Prop := ∃ node : Node, node.SpelledAs text.toList

theorem Node.SpelledAs.startsValue_append {node : Node} {cs : List Char} (h : node.SpelledAs cs)
    (rest : List Char) : StartsValue (cs ++ rest) := by
  induction h generalizing rest with
  | number h =>
    obtain ⟨c, tail, rfl, hc⟩ := h.exists_cons
    refine .cons ?_ _
    rcases hc with rfl | hc
    · decide
    · simp [startsValue, hc]
  | string h =>
    obtain ⟨-, inner, -, rfl⟩ := h
    exact .cons (by decide) _
  | spaced hb _ _ ih =>
    rw [List.append_assoc, List.append_assoc]
    exact (ih _).spacing_append hb
  | _ => exact .cons (by decide) _

/-- The spelling of a quoted text, with the white space around it. -/
theorem Node.SpelledAs.exists_quoted {q : Quoted} {cs : List Char}
    (h : (Node.string q).SpelledAs cs) : q.fault = none ∧ ∃ before inner after,
      IsSpacing before ∧ SpelledPieces q.pieces inner ∧ IsSpacing after ∧
        cs = before ++ '"' :: (inner ++ '"' :: after) := by
  generalize hnode : Node.string q = node at h
  induction h with
  | string h =>
    cases hnode
    obtain ⟨hfault, inner, hinner, rfl⟩ := h
    exact ⟨hfault, [], inner, [], .nil, hinner, .nil, rfl⟩
  | spaced hb ha _ ih =>
    obtain ⟨hfault, before, inner, after, hbefore, hinner, hafter, rfl⟩ := ih hnode
    exact ⟨hfault, _, inner, _, hb.append hbefore, hinner, hafter.append ha, by simp⟩
  | _ => cases hnode

/-! ### What is spelled is read -/

/-- The reader takes these characters for this value, up to white space at their end. -/
def IsRead (node : Node) (cs : List Char) : Prop :=
  ∀ rest, EndsNumeral rest → ∀ fuel, 2 * cs.length ≤ fuel →
    ∃ after, IsSpacing after ∧ readNode fuel (cs ++ rest) = (node, some (after ++ rest))

section Completeness

variable {rest : List Char} {fuel : ℕ}

theorem isRead_of_exact {node : Node} {cs : List Char} (hne : cs ≠ [])
    (h : ∀ rest, EndsNumeral rest → ∀ fuel, 2 * cs.length ≤ fuel + 1 →
      readNode (fuel + 1) (cs ++ rest) = (node, some rest)) : IsRead node cs := by
  intro rest hrest fuel hfuel
  have hlength : 0 < cs.length := List.length_pos_iff.2 hne
  obtain ⟨fuel, rfl⟩ : ∃ k, fuel = k + 1 := ⟨fuel - 1, by omega⟩
  exact ⟨[], .nil, h rest hrest fuel hfuel⟩

theorem startsValue_joinWith {items : List (Node × List Char)} (hne : items ≠ [])
    (hstarts : ∀ i ∈ items, ∀ rest, StartsValue (i.2 ++ rest)) (rest : List Char) :
    StartsValue (joinWith ',' (items.map Prod.snd) ++ rest) := by
  obtain ⟨item, items, rfl⟩ := List.exists_cons_of_ne_nil hne
  obtain ⟨tail, htail⟩ := Text.exists_joinWith_cons ',' item.2 (items.map Prod.snd)
  rw [List.map_cons, htail, List.append_assoc]
  exact hstarts item List.mem_cons_self _

/-- The items of an array are read, and so is its closing bracket. -/
theorem readItems_joinWith {items : List (Node × List Char)} (hne : items ≠ [])
    (hstarts : ∀ i ∈ items, ∀ rest, StartsValue (i.2 ++ rest))
    (hreads : ∀ i ∈ items, IsRead i.1 i.2)
    (hfuel : 2 * (joinWith ',' (items.map Prod.snd)).length + 1 ≤ fuel) :
    readItems fuel (joinWith ',' (items.map Prod.snd) ++ ']' :: rest) =
      (items.map Prod.fst, .done, some rest) := by
  induction items generalizing fuel with
  | nil => exact absurd rfl hne
  | cons item items ih =>
    obtain ⟨node, cs⟩ := item
    obtain ⟨fuel, rfl⟩ : ∃ k, fuel = k + 1 := ⟨fuel - 1, by omega⟩
    have hitem : IsRead node cs := hreads _ List.mem_cons_self
    cases items with
    | nil =>
      simp only [List.map_singleton, joinWith] at hfuel ⊢
      obtain ⟨after, hafter, hread⟩ := hitem (']' :: rest) (.cons (by decide) rest) fuel (by omega)
      exact readItems_bracket fuel hread
        ((skipSpace_append hafter _).trans (skipSpace_cons (by decide) rest))
    | cons next items =>
      have hjoin : joinWith ',' (((node, cs) :: next :: items).map Prod.snd) =
          cs ++ ',' :: joinWith ',' ((next :: items).map Prod.snd) := rfl
      have hstarts' : ∀ i ∈ next :: items, ∀ rest, StartsValue (i.2 ++ rest) :=
        fun i hi => hstarts i (List.mem_cons_of_mem _ hi)
      rw [hjoin, List.length_append, List.length_cons] at hfuel
      obtain ⟨after, hafter, hread⟩ := hitem
        (',' :: (joinWith ',' ((next :: items).map Prod.snd) ++ ']' :: rest))
        (.cons (by decide) _) fuel (by omega)
      have hfuel' : 2 * (joinWith ',' ((next :: items).map Prod.snd)).length + 1 ≤ fuel := by omega
      have hnext := ih (by simp) hstarts' (fun i hi => hreads i (List.mem_cons_of_mem _ hi)) hfuel'
      rw [hjoin, List.append_assoc, List.cons_append, readItems_comma fuel hread
        ((skipSpace_append hafter _).trans (skipSpace_cons (by decide) _))
        (startsValue_joinWith (by simp) hstarts' _), hnext]
      rfl

/-- The members of an object are read, and so is its closing brace. -/
theorem readMembers_joinWith {members : List SpelledMember} (hne : members ≠ [])
    (hnames : ∀ m ∈ members, (Node.string m.name).SpelledAs m.nameChars)
    (hvalues : ∀ m ∈ members, IsRead m.value m.valueChars)
    (hfuel : 2 * (joinWith ',' (members.map SpelledMember.chars)).length + 1 ≤ fuel) :
    ∃ tail, skipSpace (joinWith ',' (members.map SpelledMember.chars) ++ '\x7d' :: rest) =
        '"' :: tail ∧
      readMembers fuel tail = (members.map SpelledMember.member, .done, some rest) := by
  -- each member takes its own fuel, so the induction needs any fuel that is enough for the rest
  induction members generalizing fuel with
  | nil => exact absurd rfl hne
  | cons m members ih =>
    obtain ⟨fuel, rfl⟩ : ∃ k, fuel = k + 1 := ⟨fuel - 1, by omega⟩
    obtain ⟨hfault, before, inner, between, hbefore, hinner, hbetween, hname⟩ :=
      (hnames m List.mem_cons_self).exists_quoted
    have hvalue : IsRead m.value m.valueChars := hvalues m List.mem_cons_self
    have hquoted : ∀ more, readQuoted (inner ++ '"' :: (between ++ ':' :: more)) =
        (m.name, some (between ++ ':' :: more)) := by
      intro more
      rw [readQuoted_of_spelled hinner, ← hfault]
    have hcolon : ∀ more, skipSpace (between ++ ':' :: more) = ':' :: more := fun more =>
      (skipSpace_append hbetween _).trans (skipSpace_cons (by decide) more)
    have hstart : ∀ more, skipSpace (m.chars ++ more) =
        '"' :: (inner ++ '"' :: (between ++ ':' :: (m.valueChars ++ more))) := by
      intro more
      rw [SpelledMember.chars, hname]
      simp only [List.append_assoc, List.cons_append]
      exact (skipSpace_append hbefore _).trans (skipSpace_cons (by decide) _)
    cases members with
    | nil =>
      simp only [List.map_singleton, joinWith] at hfuel ⊢
      obtain ⟨after, hafter, hread⟩ := hvalue ('\x7d' :: rest) (.cons (by decide) rest) fuel
        (by simp only [SpelledMember.chars, List.length_append, List.length_cons] at hfuel; omega)
      exact ⟨_, hstart _, readMembers_brace fuel (hquoted _) (hcolon _) hread
        ((skipSpace_append hafter _).trans (skipSpace_cons (by decide) rest))⟩
    | cons next members =>
      have hjoin : joinWith ',' ((m :: next :: members).map SpelledMember.chars) =
          m.chars ++ ',' :: joinWith ',' ((next :: members).map SpelledMember.chars) := rfl
      have hlength : m.valueChars.length ≤ m.chars.length := by
        simp only [SpelledMember.chars, List.length_append, List.length_cons]
        omega
      rw [hjoin, List.length_append, List.length_cons] at hfuel
      have hfuel' : 2 * (joinWith ',' ((next :: members).map SpelledMember.chars)).length + 1 ≤
          fuel := by omega
      obtain ⟨more, hmore, hnext⟩ := ih (by simp) (fun n hn => hnames n (List.mem_cons_of_mem _ hn))
        (fun n hn => hvalues n (List.mem_cons_of_mem _ hn)) hfuel'
      obtain ⟨after, hafter, hread⟩ := hvalue
        (',' :: (joinWith ',' ((next :: members).map SpelledMember.chars) ++ '\x7d' :: rest))
        (.cons (by decide) _) fuel (by omega)
      rw [hjoin, List.append_assoc, List.cons_append]
      refine ⟨_, hstart _, ?_⟩
      rw [readMembers_comma fuel (hquoted _) (hcolon _) hread
        ((skipSpace_append hafter _).trans (skipSpace_cons (by decide) _)) hmore, hnext]
      rfl

/-- **What is spelled is read.** -/
theorem Node.SpelledAs.isRead {node : Node} {cs : List Char} (h : node.SpelledAs cs) :
    IsRead node cs := by
  induction h with
  | wordNull => exact isRead_of_exact (by simp) fun rest _ fuel _ => rfl
  | wordTrue => exact isRead_of_exact (by simp) fun rest _ fuel _ => rfl
  | wordFalse => exact isRead_of_exact (by simp) fun rest _ fuel _ => rfl
  | number h =>
    obtain ⟨c, tail, rfl, hc⟩ := h.exists_cons
    refine isRead_of_exact (by simp) fun rest hrest fuel _ => ?_
    rw [List.cons_append, readNode_numeral fuel hc, ← List.cons_append,
      readNumeral_of_spelledAs h hrest]
  | @string q cs h =>
    obtain ⟨hfault, inner, hinner, rfl⟩ := h
    refine isRead_of_exact (by simp) fun rest _ fuel _ => ?_
    rw [List.cons_append, List.cons_append, List.append_assoc, List.singleton_append,
      readNode_quoted, readQuoted_of_spelled hinner, ← hfault]
  | @emptyArray cs h =>
    refine isRead_of_exact (by simp) fun rest _ fuel _ => ?_
    rw [List.cons_append, List.append_assoc]
    exact readNode_emptyArray fuel
      ((skipSpace_append h _).trans (skipSpace_cons (by decide) rest))
  | @array items hne h ih =>
    refine isRead_of_exact (by simp) fun rest _ fuel hfuel => ?_
    rw [List.length_cons, List.length_append, List.length_singleton] at hfuel
    rw [List.cons_append, List.append_assoc, List.singleton_append]
    have hstarts : ∀ i ∈ items, ∀ rest, StartsValue (i.2 ++ rest) :=
      fun i hi => (h i hi).startsValue_append
    rw [readNode_array fuel (startsValue_joinWith hne hstarts _),
      readItems_joinWith hne hstarts ih (by omega)]
  | @emptyObject cs h =>
    refine isRead_of_exact (by simp) fun rest _ fuel _ => ?_
    rw [List.cons_append, List.append_assoc]
    exact readNode_emptyObject fuel
      ((skipSpace_append h _).trans (skipSpace_cons (by decide) rest))
  | @object members hne hnames hvalues _ ih =>
    refine isRead_of_exact (by simp) fun rest _ fuel hfuel => ?_
    rw [List.length_cons, List.length_append, List.length_singleton] at hfuel
    rw [List.cons_append, List.append_assoc, List.singleton_append]
    obtain ⟨tail, htail, hread⟩ := @readMembers_joinWith rest fuel _ hne hnames ih (by omega)
    rw [readNode_object fuel htail, hread]
  | @spaced node before cs after hb ha _ ih =>
    intro rest hrest fuel hfuel
    simp only [List.length_append] at hfuel
    obtain ⟨behind, hbehind, hread⟩ := ih (after ++ rest) (hrest.spacing_append ha) fuel (by omega)
    refine ⟨behind ++ after, hbehind.append ha, ?_⟩
    rw [List.append_assoc, List.append_assoc, readNode_spacing_append fuel hb, hread,
      List.append_assoc]

end Completeness

end ContentBlocking.Json
