import ContentBlocking.Proofs.Json.Grammar

/-!
# The reader and the grammar agree

What is read without a fault is spelled so (`spelled_of_read`), by induction on the fuel of the
reader, which reads values, items and members by turns.  With the other direction this makes the
trees of whole texts those that they spell (`Document.read_eq_and_skip_iff`).  So a text has a
spelling exactly if `Node.skip`, which checks the grammar only, accepts its tree
(`isJson_iff_run_skip`).
-/

namespace ContentBlocking.Json

open Text (joinWith)

/-! ### Trees without a fault -/

section Skip

variable {node : Node} {items : List Node} {members : List (Quoted × Node)} {close : Close}

theorem Close.check_eq_ok_iff : close.check = .ok () ↔ close = .done := by
  cases close <;> simp [Close.check]

theorem Node.skip_array_iff :
    (Node.array items close).skip = .ok () ↔ skipItems items = .ok () ∧ close = .done := by
  have hskip : (Node.array items close).skip = (skipItems items >>= fun _ => close.check) := rfl
  rw [hskip, bind_unit_eq_ok, Close.check_eq_ok_iff]

theorem Node.skip_object_iff :
    (Node.object members close).skip = .ok () ↔ skipMembers members = .ok () ∧ close = .done := by
  have hskip : (Node.object members close).skip =
      (skipMembers members >>= fun _ => close.check) := rfl
  rw [hskip, bind_unit_eq_ok, Close.check_eq_ok_iff]

theorem Node.skip_string_iff {q : Quoted} : (Node.string q).skip = .ok () ↔ q.fault = none := by
  obtain ⟨pieces, fault⟩ := q
  cases fault with
  | none => exact iff_of_true rfl rfl
  | some e => exact iff_of_false (fun h => by cases h) fun h => by cases h

theorem skipItems_iff : skipItems items = .ok () ↔ ∀ item ∈ items, item.skip = .ok () := by
  induction items with
  | nil => exact iff_of_true rfl (List.forall_mem_nil _)
  | cons item items ih =>
    have hskip : skipItems (item :: items) = (item.skip >>= fun _ => skipItems items) := rfl
    rw [hskip, bind_unit_eq_ok, ih, List.forall_mem_cons]

theorem skipMembers_iff : skipMembers members = .ok () ↔
    ∀ m ∈ members, m.1.fault = none ∧ m.2.skip = .ok () := by
  induction members with
  | nil => simp [skipMembers]
  | cons m members ih =>
    obtain ⟨name, value⟩ := m
    rw [skipMembers]
    cases hfault : name.fault with
    | some e => simp [hfault, bind, Except.bind]
    | none =>
      rw [ok_bind, bind_unit_eq_ok, ih]
      simp [hfault]

/-- A spelling has no fault. -/
theorem Node.SpelledAs.skip_eq {cs : List Char} (h : node.SpelledAs cs) : node.skip = .ok () := by
  induction h with
  | string h => exact Node.skip_string_iff.2 h.fault
  | array _ _ ih =>
    refine Node.skip_array_iff.2 ⟨skipItems_iff.2 fun item hitem => ?_, rfl⟩
    obtain ⟨i, hi, rfl⟩ := List.mem_map.1 hitem
    exact ih i hi
  | object _ hname _ _ ih =>
    refine Node.skip_object_iff.2 ⟨skipMembers_iff.2 fun member hmember => ?_, rfl⟩
    obtain ⟨m, hm, rfl⟩ := List.mem_map.1 hmember
    exact ⟨(hname m hm).exists_quoted.1, ih m hm⟩
  | spaced _ _ _ ih => exact ih
  | _ => rfl

end Skip

/-! ### What is read is spelled -/

/-- With this fuel, values that are read without a fault are spelled so. -/
def NodesSpelled (fuel : ℕ) : Prop := ∀ ⦃cs node after⦄, readNode fuel cs = (node, after) →
  node.skip = .ok () → ∃ chars rest, node.SpelledAs chars ∧ after = some rest ∧ cs = chars ++ rest

/-- With this fuel, items that are read without a fault are spelled so. -/
def ItemsSpelled (fuel : ℕ) : Prop := ∀ ⦃cs items after⦄,
  readItems fuel cs = (items, .done, after) → skipItems items = .ok () →
    ∃ (spelled : List (Node × List Char)) (rest : List Char), spelled ≠ [] ∧
      (∀ i ∈ spelled, i.1.SpelledAs i.2) ∧ items = spelled.map Prod.fst ∧ after = some rest ∧
        cs = joinWith ',' (spelled.map Prod.snd) ++ ']' :: rest

/-- With this fuel, members that are read without a fault are spelled so; white space may stand in
front of the quote that was read before. -/
def MembersSpelled (fuel : ℕ) : Prop := ∀ ⦃before cs members after⦄, IsSpacing before →
  readMembers fuel cs = (members, .done, after) → skipMembers members = .ok () →
    ∃ (spelled : List SpelledMember) (rest : List Char), spelled ≠ [] ∧
      (∀ m ∈ spelled, (Node.string m.name).SpelledAs m.nameChars) ∧
      (∀ m ∈ spelled, m.value.SpelledAs m.valueChars) ∧
        members = spelled.map SpelledMember.member ∧ after = some rest ∧
          before ++ '"' :: cs = joinWith ',' (spelled.map SpelledMember.chars) ++ '\x7d' :: rest

section Soundness

variable {fuel : ℕ}

theorem readWordNode_spelled {word cs : List Char} {value node : Node} {after : Option (List Char)}
    (h : readWordNode word value cs = (node, after)) (hskip : node.skip = .ok ()) :
    ∃ rest, node = value ∧ after = some rest ∧ cs = word ++ rest := by
  rw [readWordNode] at h
  split at h
  · next rest hword =>
    cases h
    exact ⟨rest, rfl, rfl, readWord_eq_ok_iff.1 hword⟩
  · cases h
    cases hskip

/-- A value whose first token is spelled so. -/
theorem exists_spelled_of_skipSpace {cs chars rest : List Char} {node : Node}
    (h : node.SpelledAs chars) (heq : skipSpace cs = chars ++ rest) :
    ∃ chars, node.SpelledAs chars ∧ cs = chars ++ rest := by
  obtain ⟨before, hbefore, hcs⟩ := exists_append_skipSpace cs
  refine ⟨before ++ (chars ++ []), .spaced hbefore .nil h, ?_⟩
  rw [List.append_nil, List.append_assoc, ← heq]
  exact hcs

theorem readNode_array_spelled (hitems : ItemsSpelled fuel) {cs rest : List Char} {node : Node}
    {after : Option (List Char)} (hbracket : skipSpace cs = '[' :: rest)
    (h : readNode (fuel + 1) cs = (node, after)) (hskip : node.skip = .ok ()) :
    ∃ chars rest', node.SpelledAs chars ∧ after = some rest' ∧ '[' :: rest = chars ++ rest' := by
  rw [readNode, hbracket] at h
  simp only at h
  split at h
  · cases h
    cases hskip
  · next rest' hrest =>
    cases h
    obtain ⟨spacing, hspacing, hcs⟩ := exists_append_skipSpace rest
    rw [hrest] at hcs
    exact ⟨_, rest', .emptyArray hspacing, rfl, by rw [hcs]; simp⟩
  · rw [readItems_skipSpace] at h
    cases hread : readItems fuel rest with
    | mk items end' =>
      obtain ⟨close, after'⟩ := end'
      rw [hread] at h
      cases h
      obtain ⟨hskipItems, rfl⟩ := Node.skip_array_iff.1 hskip
      obtain ⟨spelled, rest', hne, hspelled, rfl, rfl, rfl⟩ := hitems hread hskipItems
      exact ⟨_, rest', .array hne hspelled, rfl, by simp⟩

theorem readNode_object_spelled (hmembers : MembersSpelled fuel) {cs rest : List Char} {node : Node}
    {after : Option (List Char)} (hbrace : skipSpace cs = '\x7b' :: rest)
    (h : readNode (fuel + 1) cs = (node, after)) (hskip : node.skip = .ok ()) :
    ∃ chars rest', node.SpelledAs chars ∧ after = some rest' ∧
      '\x7b' :: rest = chars ++ rest' := by
  rw [readNode, hbrace] at h
  simp only at h
  obtain ⟨spacing, hspacing, hcs⟩ := exists_append_skipSpace rest
  split at h
  · cases h
    cases hskip
  · next rest' hrest =>
    cases h
    rw [hrest] at hcs
    exact ⟨_, rest', .emptyObject hspacing, rfl, by rw [hcs]; simp⟩
  · next tail htail =>
    cases hread : readMembers fuel tail with
    | mk members end' =>
      obtain ⟨close, after'⟩ := end'
      rw [hread] at h
      cases h
      obtain ⟨hskipMembers, rfl⟩ := Node.skip_object_iff.1 hskip
      obtain ⟨spelled, rest', hne, hnames, hvalues, rfl, rfl, hspelled⟩ :=
        hmembers hspacing hread hskipMembers
      rw [htail, hspelled] at hcs
      exact ⟨_, rest', .object hne hnames hvalues, rfl, by rw [hcs]; simp⟩
  · cases h
    exact absurd (Node.skip_object_iff.1 hskip).2 (by simp)

theorem nodesSpelled_succ (hitems : ItemsSpelled fuel) (hmembers : MembersSpelled fuel) :
    NodesSpelled (fuel + 1) := by
  intro cs node after h hskip
  -- the white space in front of the value belongs to its spelling
  suffices hspelled : ∃ chars rest, node.SpelledAs chars ∧ after = some rest ∧
      skipSpace cs = chars ++ rest by
    obtain ⟨chars, rest, hchars, hrest, heq⟩ := hspelled
    obtain ⟨chars, hchars, heq⟩ := exists_spelled_of_skipSpace hchars heq
    exact ⟨chars, rest, hchars, hrest, heq⟩
  have hread := h
  rw [readNode] at h
  split at h
  · cases h
    cases hskip
  · next rest heq =>
    obtain ⟨rest, rfl, rfl, rfl⟩ := readWordNode_spelled h hskip
    exact ⟨_, rest, .wordNull, rfl, heq⟩
  · next rest heq =>
    obtain ⟨rest, rfl, rfl, rfl⟩ := readWordNode_spelled h hskip
    exact ⟨_, rest, .wordTrue, rfl, heq⟩
  · next rest heq =>
    obtain ⟨rest, rfl, rfl, rfl⟩ := readWordNode_spelled h hskip
    exact ⟨_, rest, .wordFalse, rfl, heq⟩
  · next rest heq =>
    cases h
    rw [Node.skip_string_iff] at hskip
    obtain ⟨inner, rest, hinner, hrest, rfl⟩ := exists_spelled_of_readQuoted hskip
    exact ⟨_, rest, .string ⟨hskip, inner, hinner, rfl⟩, hrest, by rw [heq]; simp⟩
  · next rest heq =>
    rw [heq]
    exact readNode_array_spelled hitems heq hread hskip
  · next rest heq =>
    rw [heq]
    exact readNode_object_spelled hmembers heq hread hskip
  · next c tail _ _ _ _ _ _ heq =>
    split_ifs at h with hc
    · split at h
      · next n rest hnumeral =>
        cases h
        obtain ⟨chars, hchars, hcs⟩ := Numeral.spelledAs_of_readNumeral hnumeral
        exact ⟨chars, rest, .number hchars, rfl, heq.trans hcs⟩
      · cases h
        cases hskip
    · cases h
      cases hskip

theorem itemsSpelled_succ (hnode : NodesSpelled fuel) (hitems : ItemsSpelled fuel) :
    ItemsSpelled (fuel + 1) := by
  intro cs items after h hskip
  rw [readItems_succ] at h
  split at h
  · cases h
  · next item rest hread =>
    -- the item is spelled in front of the rest, whatever follows it
    have hitem : item.skip = .ok () → ∃ chars, item.SpelledAs chars ∧ cs = chars ++ rest := by
      intro hskipItem
      obtain ⟨chars, rest', hchars, hrest, hcs⟩ := hnode hread hskipItem
      cases hrest
      exact ⟨chars, hchars, hcs⟩
    obtain ⟨spacing, hspacing, hrest⟩ := exists_append_skipSpace rest
    split at h
    · cases h
    · next tail htail =>
      cases h
      obtain ⟨chars, hchars, rfl⟩ := hitem (skipItems_iff.1 hskip item List.mem_cons_self)
      refine ⟨[(item, chars ++ spacing)], tail, by simp, ?_, rfl, rfl, ?_⟩
      · intro i hi
        rw [List.mem_singleton.1 hi]
        exact .spaced .nil hspacing hchars
      · rw [hrest, htail]
        simp [joinWith]
    · next tail htail =>
      split at h
      · cases h
      · cases h
      · rw [readItems_skipSpace] at h
        cases hnext : readItems fuel tail with
        | mk items end' =>
          obtain ⟨close, after'⟩ := end'
          rw [hnext] at h
          cases h
          rw [skipItems_iff, List.forall_mem_cons, ← skipItems_iff] at hskip
          obtain ⟨chars, hchars, rfl⟩ := hitem hskip.1
          obtain ⟨spelled, rest', hne, hspelled, rfl, rfl, rfl⟩ := hitems hnext hskip.2
          refine ⟨(item, chars ++ spacing) :: spelled, rest', by simp, ?_, rfl, rfl, ?_⟩
          · rw [List.forall_mem_cons]
            exact ⟨.spaced .nil hspacing hchars, hspelled⟩
          · rw [hrest, htail, List.map_cons, Text.joinWith_cons _ (by simpa using hne)]
            simp
    · cases h

/-- A member is spelled by its name, its colon and its value, with the white space between them. -/
theorem exists_spelledMember {before cs behindName tail behindValue chars : List Char}
    {name : Quoted} {value : Node} (hbefore : IsSpacing before)
    (hname : readQuoted cs = (name, some behindName)) (hfault : name.fault = none)
    (hcolon : skipSpace behindName = ':' :: tail) (hvalue : value.SpelledAs chars)
    (htail : tail = chars ++ behindValue) :
    ∃ m : SpelledMember, m.member = (name, value) ∧ (Node.string m.name).SpelledAs m.nameChars ∧
      m.value.SpelledAs m.valueChars ∧ before ++ '"' :: cs = m.chars ++ skipSpace behindValue := by
  have hquoted := @exists_spelled_of_readQuoted cs
  rw [hname] at hquoted
  obtain ⟨inner, rest, hinner, hrest, rfl⟩ := hquoted hfault
  cases hrest
  obtain ⟨between, hbetween, hbehindName⟩ := exists_append_skipSpace behindName
  obtain ⟨after, hafter, hbehindValue⟩ := exists_append_skipSpace behindValue
  refine ⟨⟨name, before ++ ('"' :: inner ++ ['"'] ++ between), value, [] ++ (chars ++ after)⟩,
    rfl, .spaced hbefore hbetween (.string ⟨hfault, inner, hinner, rfl⟩),
    .spaced .nil hafter hvalue, ?_⟩
  rw [hcolon] at hbehindName
  rw [hbehindName, htail, SpelledMember.chars]
  conv_lhs => rw [hbehindValue]
  simp

theorem membersSpelled_succ (hnode : NodesSpelled fuel) (hmembers : MembersSpelled fuel) :
    MembersSpelled (fuel + 1) := by
  intro before cs members after hbefore h hskip
  rw [readMembers_succ] at h
  split at h
  · cases h
  · next name behindName hname =>
    split at h
    · cases h
    · next tail hcolon =>
      split at h
      · cases h
      · next value behindValue hvalue =>
        -- the member is spelled in front of the rest, whatever follows it
        have hmember : name.fault = none ∧ value.skip = .ok () → ∃ m : SpelledMember,
            m.member = (name, value) ∧ (Node.string m.name).SpelledAs m.nameChars ∧
              m.value.SpelledAs m.valueChars ∧
                before ++ '"' :: cs = m.chars ++ skipSpace behindValue := by
          rintro ⟨hfault, hskipValue⟩
          obtain ⟨chars, rest, hchars, hrest, htail⟩ := hnode hvalue hskipValue
          cases hrest
          exact exists_spelledMember hbefore hname hfault hcolon hchars htail
        split at h
        · cases h
        · next rest hbrace =>
          cases h
          obtain ⟨m, hm, hmName, hmValue, heq⟩ :=
            hmember (skipMembers_iff.1 hskip (name, value) List.mem_cons_self)
          refine ⟨[m], rest, by simp, by simpa using hmName, by simpa using hmValue,
            by rw [List.map_singleton, hm], rfl, ?_⟩
          rw [heq, hbrace]
          rfl
        · next rest hcomma =>
          split at h
          · cases h
          · next more hmore =>
            cases hnext : readMembers fuel more with
            | mk members end' =>
              obtain ⟨close, after'⟩ := end'
              rw [hnext] at h
              cases h
              rw [skipMembers_iff, List.forall_mem_cons, ← skipMembers_iff] at hskip
              obtain ⟨m, hm, hmName, hmValue, heq⟩ := hmember hskip.1
              obtain ⟨spacing, hspacing, hrest⟩ := exists_append_skipSpace rest
              obtain ⟨spelled, rest', hne, hnames, hvalues, rfl, rfl, hspelled⟩ :=
                hmembers hspacing hnext hskip.2
              refine ⟨m :: spelled, rest', by simp, List.forall_mem_cons.2 ⟨hmName, hnames⟩,
                List.forall_mem_cons.2 ⟨hmValue, hvalues⟩, by rw [List.map_cons, hm], rfl, ?_⟩
              rw [heq, hcomma, hrest, hmore, hspelled, List.map_cons,
                Text.joinWith_cons _ (by simpa using hne)]
              simp
          · cases h
        · cases h
    · cases h

/-- **What is read is spelled.** -/
theorem spelled_of_read (fuel : ℕ) :
    NodesSpelled fuel ∧ ItemsSpelled fuel ∧ MembersSpelled fuel := by
  induction fuel with
  | zero =>
    -- nothing is read without fuel
    refine ⟨fun cs node after h hskip => ?_, fun cs items after h => ?_,
      fun before cs members after _ h => ?_⟩
    · cases h
      cases hskip
    · cases h
    · cases h
  | succ fuel ih =>
    obtain ⟨hnodes, hitems, hmembers⟩ := ih
    exact ⟨nodesSpelled_succ hitems hmembers, itemsSpelled_succ hnodes hitems,
      membersSpelled_succ hnodes hmembers⟩

end Soundness

/-! ### Whole texts -/

variable {node : Node} {text : String}

/-- A text that spells a value is read as that value. -/
theorem Document.read_eq_of_spelledAs (h : node.SpelledAs text.toList) :
    Document.read text = ⟨node, false⟩ := by
  obtain ⟨after, hafter, hread⟩ := h.isRead [] .nil (2 * text.toList.length + 2) (by omega)
  rw [List.append_nil, List.append_nil] at hread
  simp only [Document.read, hread, skipSpace_of_isSpacing hafter]
  rfl

/-- A text that is read without a fault and has nothing behind it spells the value. -/
theorem Document.spelledAs_of_read (hskip : (Document.read text).root.skip = .ok ())
    (htrailing : (Document.read text).trailing = false) :
    (Document.read text).root.SpelledAs text.toList := by
  cases hread : readNode (2 * text.toList.length + 2) text.toList with
  | mk node after =>
    have hroot : (Document.read text).root = node := by
      rw [Document.read, hread]
      cases after <;> rfl
    rw [hroot] at hskip ⊢
    obtain ⟨chars, rest, hchars, rfl, htext⟩ := (spelled_of_read _).1 hread hskip
    have hrest : skipSpace rest = [] := by
      simpa [Document.read, hread] using htrailing
    obtain ⟨spacing, hspacing, heq⟩ := exists_append_skipSpace rest
    rw [hrest, List.append_nil] at heq
    rw [htext, heq]
    exact .spaced .nil hspacing hchars

/-- **The reader and the grammar agree.** -/
theorem Document.read_eq_and_skip_iff :
    Document.read text = ⟨node, false⟩ ∧ node.skip = .ok () ↔ node.SpelledAs text.toList := by
  constructor
  · rintro ⟨hread, hskip⟩
    have hspelled := @Document.spelledAs_of_read text
    rw [hread] at hspelled
    exact hspelled hskip rfl
  · intro h
    exact ⟨Document.read_eq_of_spelledAs h, h.skip_eq⟩

/-- A text spells one value at most. -/
theorem Node.SpelledAs.unique {node' : Node} (h : node.SpelledAs text.toList)
    (h' : node'.SpelledAs text.toList) : node = node' := by
  have hread := (Document.read_eq_of_spelledAs h).symm.trans (Document.read_eq_of_spelledAs h')
  exact congrArg Document.root hread

theorem Reader.run_eq_ok {α : Type} {read : Reader α} {a : α} :
    read.run text = .ok a ↔
      read (Document.read text).root = .ok a ∧ (Document.read text).trailing = false := by
  rw [run]
  constructor
  · intro h
    obtain ⟨b, hb, h⟩ := bind_eq_ok.1 h
    cases htrailing : (Document.read text).trailing with
    | true => rw [htrailing] at h; cases h
    | false =>
      rw [htrailing] at h
      cases h
      exact ⟨hb, rfl⟩
  · rintro ⟨ha, htrailing⟩
    rw [ha, htrailing]
    rfl

/-- Whether a text is JSON can be computed. -/
theorem isJson_iff_run_skip : IsJson text ↔ Reader.run Node.skip text = .ok () := by
  rw [Reader.run_eq_ok]
  constructor
  · rintro ⟨node, h⟩
    rw [Document.read_eq_of_spelledAs h]
    exact ⟨h.skip_eq, rfl⟩
  · rintro ⟨hskip, htrailing⟩
    exact ⟨_, Document.spelledAs_of_read hskip htrailing⟩

end ContentBlocking.Json
