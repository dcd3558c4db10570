import ContentBlocking.Proofs.Json.Rereading

/-!
# The limits of the reader of values

A spelling may still be beyond the reader of values of any type: arrays and objects may stand in
one another to a depth only, a numeral may be out of range, and the escapes of a text may leave half
of a surrogate pair alone.  `Node.Within` is a tree that has none of this.  On spellings the reader
succeeds exactly if they are within its limits, and calls all others malformed
(`Node.SpelledAs.ofNode_succeedsIff`).  So a text has a value exactly if it spells a tree that is
within the limits (`Reader.exists_any_run_eq_ok_iff`).
-/

namespace ContentBlocking.Json

/-! ### Limits -/

/-- Pieces of a quoted text that are characters or surrogate pairs. -/
inductive Paired : List Piece → Prop
  | nil : Paired []
  | char {c : Char} {ps : List Piece} (h : Paired ps) : Paired (.char c :: ps)
  | unit {n : ℕ} {ps : List Piece} (hn : ¬(0xD800 ≤ n ∧ n < 0xE000)) (h : Paired ps) :
      Paired (.unit n :: ps)
  | pair {n m : ℕ} {ps : List Piece} (hn : 0xD800 ≤ n ∧ n < 0xDC00)
      (hm : 0xDC00 ≤ m ∧ m < 0xE000) (h : Paired ps) : Paired (.unit n :: .unit m :: ps)

/-- A tree with at most this many arrays and objects in one another, all of whose numerals have a
value and all of whose texts are made of characters. -/
inductive Node.Within : ℕ → Node → Prop
  | null {depth : ℕ} : Within depth .null
  | bool {depth : ℕ} {b : Bool} : Within depth (.bool b)
  | number {depth : ℕ} {n : Numeral} {v : Number} (h : n.value = .ok v) : Within depth (.number n)
  | string {depth : ℕ} {q : Quoted} (h : Paired q.pieces) : Within depth (.string q)
  | array {depth : ℕ} {items : List Node} {close : Close} (h : ∀ item ∈ items, Within depth item) :
      Within (depth + 1) (.array items close)
  | object {depth : ℕ} {members : List (Quoted × Node)} {close : Close}
      (hname : ∀ m ∈ members, Paired m.1.pieces) (hvalue : ∀ m ∈ members, Within depth m.2) :
      Within (depth + 1) (.object members close)

section Parts

variable {depth : ℕ} {close : Close}

theorem Node.within_array_iff {items : List Node} :
    (Node.array items close).Within (depth + 1) ↔ ∀ item ∈ items, item.Within depth := by
  refine ⟨fun h => ?_, .array⟩
  cases h with
  | array h => exact h

theorem Node.within_object_iff {members : List (Quoted × Node)} :
    (Node.object members close).Within (depth + 1) ↔
      ∀ m ∈ members, Paired m.1.pieces ∧ m.2.Within depth := by
  refine ⟨fun h m hm => ?_, fun h => .object (fun m hm => (h m hm).1) fun m hm => (h m hm).2⟩
  cases h with
  | object hname hvalue => exact ⟨hname m hm, hvalue m hm⟩

end Parts

/-! ### Computations that succeed on a condition -/

/-- The computation succeeds exactly under the condition, and fails in one way only. -/
structure SucceedsIff {α : Type} (p : Prop) (x : Except Error α) : Prop where
  succeeds : p → ∃ a, x = .ok a
  fails : ¬p → x = .error .malformed

namespace SucceedsIff

variable {α β : Type} {p q : Prop} {x : Except Error α}

theorem iff (h : SucceedsIff p x) : (∃ a, x = .ok a) ↔ p := by
  refine ⟨fun ⟨a, ha⟩ => ?_, h.succeeds⟩
  by_contra hp
  rw [h.fails hp] at ha
  cases ha

theorem of_ok (a : α) : SucceedsIff True (.ok a : Except Error α) :=
  ⟨fun _ => ⟨a, rfl⟩, fun h => absurd trivial h⟩

theorem congr (h : SucceedsIff p x) (hpq : p ↔ q) : SucceedsIff q x :=
  ⟨fun hq => h.succeeds (hpq.2 hq), fun hq => h.fails fun hp => hq (hpq.1 hp)⟩

theorem bind {f : α → Except Error β} (h : SucceedsIff p x) (hf : ∀ a, SucceedsIff q (f a)) :
    SucceedsIff (p ∧ q) (x >>= f) := by
  by_cases hp : p
  · obtain ⟨a, rfl⟩ := h.succeeds hp
    exact (hf a).congr (by simp [hp])
  · rw [h.fails hp]
    exact ⟨fun hpq => absurd hpq.1 hp, fun _ => rfl⟩

theorem map (h : SucceedsIff p x) (f : α → β) : SucceedsIff p (f <$> x) := by
  refine ⟨fun hp => ?_, fun hp => ?_⟩
  · obtain ⟨a, rfl⟩ := h.succeeds hp
    exact ⟨f a, rfl⟩
  · rw [h.fails hp]
    rfl

end SucceedsIff

/-! ### Numerals and texts -/

section Texts

variable {n m : ℕ} {c : Char} {ps : List Piece}

theorem paired_char_iff : Paired (.char c :: ps) ↔ Paired ps := by
  refine ⟨fun h => ?_, .char⟩
  cases h with
  | char h => exact h

theorem paired_unit_iff (hn : ¬(0xD800 ≤ n ∧ n < 0xE000)) :
    Paired (.unit n :: ps) ↔ Paired ps := by
  refine ⟨fun h => ?_, .unit hn⟩
  cases h with
  | unit _ h => exact h
  | pair hhigh _ _ => omega

theorem paired_pair_iff (hn : 0xD800 ≤ n ∧ n < 0xDC00) (hm : 0xDC00 ≤ m ∧ m < 0xE000) :
    Paired (.unit n :: .unit m :: ps) ↔ Paired ps := by
  refine ⟨fun h => ?_, .pair hn hm⟩
  cases h with
  | unit hn' _ => omega
  | pair _ _ h => exact h

/-- Half of a pair goes in front of the other half only. -/
theorem not_paired_unit (hn : 0xD800 ≤ n ∧ n < 0xE000)
    (h : ∀ m ps', ps = .unit m :: ps' → ¬(n < 0xDC00 ∧ 0xDC00 ≤ m ∧ m < 0xE000)) :
    ¬Paired (.unit n :: ps) := by
  intro hpaired
  cases hpaired with
  | unit hn' _ => exact hn' hn
  | pair hhigh hlow _ => exact h _ _ rfl ⟨hhigh.2, hlow⟩

theorem succeedsIff_malformed {α : Type} {p : Prop} (h : ¬p) :
    SucceedsIff p (.error .malformed : Except Error α) :=
  ⟨fun hp => absurd hp h, fun _ => rfl⟩

theorem decodePieces_succeedsIff (ps : List Piece) :
    SucceedsIff (Paired ps) (decodePieces ps none) := by
  generalize hfault : none = fault
  fun_induction decodePieces ps fault with
  | case1 => exact (SucceedsIff.of_ok []).congr (by simp [Paired.nil])
  | case3 c ps _ ih => exact ((ih hfault).map _).congr paired_char_iff.symm
  | case4 n _ hn =>
    subst hfault
    rw [Option.getD_none, ite_self]
    exact succeedsIff_malformed (not_paired_unit hn (by simp))
  | case5 n hn => exact (SucceedsIff.of_ok _).congr (by simp [paired_unit_iff hn, Paired.nil])
  | case7 n m ps _ hn hm ih => exact ((ih hfault).map _).congr (paired_pair_iff hn hm).symm
  -- a first half in front of another unit, then a second half in the place of a first one
  | case8 n m ps _ hn hm =>
    refine succeedsIff_malformed (not_paired_unit (by omega) ?_)
    rintro m' ps' heq
    cases heq
    exact fun h => hm h.2
  | case9 n m ps _ hn hn' =>
    refine succeedsIff_malformed (not_paired_unit (by omega) ?_)
    rintro m' ps' heq
    omega
  | case10 n m ps _ hn hn' ih => exact ((ih hfault).map _).congr (paired_unit_iff (by omega)).symm
  | case11 n c ps _ hn => exact succeedsIff_malformed (not_paired_unit hn (by simp))
  | case12 n c ps _ hn ih => exact ((ih hfault).map _).congr (paired_unit_iff hn).symm
  | case2 | case6 => cases hfault

/-- A text that can be decoded has no fault. -/
theorem fault_eq_none_of_decodePieces {fault : Option Error} {cs : List Char}
    (h : decodePieces ps fault = .ok cs) : fault = none := by
  fun_induction decodePieces ps fault generalizing cs with
  | case1 | case5 => rfl
  | case3 _ _ _ ih | case7 _ _ _ _ _ _ ih | case10 _ _ _ _ _ _ ih | case12 _ _ _ _ _ ih =>
    obtain ⟨cs', hcs, -⟩ := map_eq_ok.1 h
    exact ih hcs
  | _ => cases h

theorem Quoted.text_succeedsIff {q : Quoted} (h : q.fault = none) :
    SucceedsIff (Paired q.pieces) q.text := by
  rw [Quoted.text, h]
  exact (decodePieces_succeedsIff q.pieces).map _

theorem Quoted.fault_of_text {q : Quoted} {s : String} (h : q.text = .ok s) : q.fault = none := by
  obtain ⟨cs, hcs, -⟩ := map_eq_ok.1 h
  exact fault_eq_none_of_decodePieces hcs

theorem Quoted.paired_of_text {q : Quoted} {s : String} (h : q.text = .ok s) : Paired q.pieces :=
  (Quoted.text_succeedsIff (Quoted.fault_of_text h)).iff.1 ⟨s, h⟩

theorem Numeral.value_succeedsIff (n : Numeral) : SucceedsIff (∃ v, n.value = .ok v) n.value := by
  refine ⟨id, fun h => ?_⟩
  cases hvalue : n.value with
  | ok v => exact absurd ⟨v, hvalue⟩ h
  | error e =>
    -- only a double can be out of range
    unfold Numeral.value at hvalue
    cases hmagnitude : n.magnitude with
    | some x =>
      simp only [hmagnitude] at hvalue
      split_ifs at hvalue
    | none =>
      simp only [hmagnitude] at hvalue
      split_ifs at hvalue <;> cases hvalue <;> rfl

end Texts

/-! ### Spellings -/

section Spellings

variable {node : Node} {text : String} {depth : ℕ}

theorem Value.ofItems_succeedsIff {items : List Node}
    (h : ∀ item ∈ items, SucceedsIff (item.Within depth) (Value.ofNode depth item)) :
    SucceedsIff (∀ item ∈ items, item.Within depth) (Value.ofItems depth items) := by
  induction items with
  | nil => exact (SucceedsIff.of_ok []).congr (by simp)
  | cons item items ih =>
    rw [List.forall_mem_cons] at h
    rw [List.forall_mem_cons, Value.ofItems]
    exact h.1.bind fun v => ((ih h.2).bind fun vs => SucceedsIff.of_ok (v :: vs)).congr (by simp)

theorem Value.ofMembers_succeedsIff {members : List (Quoted × Node)}
    (hname : ∀ m ∈ members, m.1.fault = none)
    (hvalue : ∀ m ∈ members, SucceedsIff (m.2.Within depth) (Value.ofNode depth m.2)) :
    SucceedsIff ((∀ m ∈ members, Paired m.1.pieces) ∧ ∀ m ∈ members, m.2.Within depth)
      (Value.ofMembers depth members) := by
  induction members with
  | nil => exact (SucceedsIff.of_ok []).congr (by simp)
  | cons m members ih =>
    obtain ⟨name, node⟩ := m
    rw [List.forall_mem_cons] at hname hvalue
    rw [Value.ofMembers]
    refine ((Quoted.text_succeedsIff hname.1).bind fun s => hvalue.1.bind fun v =>
      (ih hname.2 hvalue.2).bind fun ms => SucceedsIff.of_ok ((s, v) :: ms)).congr ?_
    rw [List.forall_mem_cons, List.forall_mem_cons]
    tauto

theorem Value.ofNode_array_succeedsIff {items : List Node} (h : ∀ item ∈ items, ∀ depth,
      SucceedsIff (item.Within depth) (Value.ofNode depth item)) (depth : ℕ) :
    SucceedsIff ((Node.array items .done).Within depth)
      (Value.ofNode depth (.array items .done)) := by
  cases depth with
  | zero => exact succeedsIff_malformed (by rintro ⟨⟩)
  | succ depth =>
    have hitems := Value.ofItems_succeedsIff fun item hitem => h item hitem depth
    rw [Value.ofNode]
    exact (hitems.bind fun vs => SucceedsIff.of_ok (Value.array vs)).congr
      (by rw [and_true, Node.within_array_iff])

theorem Value.ofNode_object_succeedsIff {members : List (Quoted × Node)}
    (hname : ∀ m ∈ members, m.1.fault = none) (hvalue : ∀ m ∈ members, ∀ depth,
      SucceedsIff (m.2.Within depth) (Value.ofNode depth m.2)) (depth : ℕ) :
    SucceedsIff ((Node.object members .done).Within depth)
      (Value.ofNode depth (.object members .done)) := by
  cases depth with
  | zero => exact succeedsIff_malformed (by rintro ⟨⟩)
  | succ depth =>
    have hmembers := Value.ofMembers_succeedsIff hname fun m hm => hvalue m hm depth
    rw [Value.ofNode]
    exact (hmembers.bind fun ms => SucceedsIff.of_ok (Value.object (sortMembers ms))).congr
      (by rw [and_true, Node.within_object_iff, forall₂_and])

/-- **The reader of values succeeds on the spellings within its limits, and on no others.** -/
theorem Node.SpelledAs.ofNode_succeedsIff {cs : List Char} (h : node.SpelledAs cs) (depth : ℕ) :
    SucceedsIff (node.Within depth) (Value.ofNode depth node) := by
  induction h generalizing depth with
  | wordNull => exact (SucceedsIff.of_ok _).congr (by simp [Node.Within.null])
  | wordTrue | wordFalse => exact (SucceedsIff.of_ok _).congr (by simp [Node.Within.bool])
  | @number n =>
    refine (n.value_succeedsIff.map _).congr ⟨fun ⟨v, h⟩ => .number h, fun h => ?_⟩
    cases h with
    | number h => exact ⟨_, h⟩
  | string h =>
    refine ((Quoted.text_succeedsIff h.fault).map _).congr ⟨.string, fun h => ?_⟩
    cases h with
    | string h => exact h
  | emptyArray => exact Value.ofNode_array_succeedsIff (by simp) depth
  | array _ _ ih => exact Value.ofNode_array_succeedsIff (List.forall_mem_map.2 ih) depth
  | emptyObject => exact Value.ofNode_object_succeedsIff (by simp) (by simp) depth
  | object _ hname _ _ ih =>
    exact Value.ofNode_object_succeedsIff
      (List.forall_mem_map.2 fun m hm => (hname m hm).exists_quoted.1)
      (List.forall_mem_map.2 ih) depth
  | spaced _ _ _ ih => exact ih depth

mutual

/-- A tree that has a value has no fault. -/
theorem Node.skip_of_ofNode (node : Node) {depth : ℕ} {v : Value}
    (h : Value.ofNode depth node = .ok v) : node.skip = .ok () := by
  match node with
  | .null | .bool _ | .number _ => rfl
  | .string q =>
    obtain ⟨s, hs, -⟩ := map_eq_ok.1 h
    exact Node.skip_string_iff.2 (Quoted.fault_of_text hs)
  | .array items close =>
    obtain ⟨depth, vs, hvs, hclose, -⟩ := Value.ofNode_array h
    exact Node.skip_array_iff.2 ⟨skipItems_of_ofItems items hvs, hclose⟩
  | .object members close =>
    obtain ⟨depth, ms, hms, hclose, -⟩ := Value.ofNode_object h
    exact Node.skip_object_iff.2 ⟨skipMembers_of_ofMembers members hms, hclose⟩
  | .absent | .junk | .brokenWord _ | .brokenNumeral _ => cases h

theorem skipItems_of_ofItems (items : List Node) {depth : ℕ} {vs : List Value}
    (h : Value.ofItems depth items = .ok vs) : skipItems items = .ok () := by
  match items with
  | [] => rfl
  | item :: items =>
    obtain ⟨v, vs', hv, hvs, -⟩ := Value.ofItems_cons h
    rw [skipItems, Node.skip_of_ofNode item hv, ok_bind]
    exact skipItems_of_ofItems items hvs

theorem skipMembers_of_ofMembers (members : List (Quoted × Node)) {depth : ℕ}
    {ms : List (String × Value)} (h : Value.ofMembers depth members = .ok ms) :
    skipMembers members = .ok () := by
  match members with
  | [] => rfl
  | (name, node) :: members =>
    obtain ⟨n, v, ms', hn, hv, hms, -⟩ := Value.ofMembers_cons h
    rw [skipMembers, Quoted.fault_of_text hn, ok_bind, Node.skip_of_ofNode node hv, ok_bind]
    exact skipMembers_of_ofMembers members hms

end

/-! ### Whole texts -/

/-- The value of a text is that of the tree that it spells. -/
theorem Reader.any_run_eq_ok_iff {v : Value} : Reader.any.run text = .ok v ↔
    ∃ node : Node, node.SpelledAs text.toList ∧ Value.ofNode maxDepth node = .ok v := by
  rw [Reader.run_eq_ok]
  constructor
  · rintro ⟨hv, htrailing⟩
    exact ⟨_, Document.spelledAs_of_read (Node.skip_of_ofNode _ hv) htrailing, hv⟩
  · rintro ⟨node, hspelled, hv⟩
    rw [Document.read_eq_of_spelledAs hspelled]
    exact ⟨hv, rfl⟩

/-- **A text has a value exactly if it is JSON within the limits.** -/
theorem Reader.exists_any_run_eq_ok_iff : (∃ v, Reader.any.run text = .ok v) ↔
    ∃ node : Node, node.SpelledAs text.toList ∧ node.Within maxDepth := by
  constructor
  · rintro ⟨v, hv⟩
    obtain ⟨node, hspelled, hv⟩ := Reader.any_run_eq_ok_iff.1 hv
    exact ⟨node, hspelled, (hspelled.ofNode_succeedsIff maxDepth).iff.1 ⟨v, hv⟩⟩
  · rintro ⟨node, hspelled, hwithin⟩
    obtain ⟨v, hv⟩ := (hspelled.ofNode_succeedsIff maxDepth).succeeds hwithin
    exact ⟨v, Reader.any_run_eq_ok_iff.2 ⟨node, hspelled, hv⟩⟩

end Spellings

end ContentBlocking.Json
