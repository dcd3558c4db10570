import ContentBlocking.Proofs.Json.Limits
import ContentBlocking.Proofs.Json.Records

/-!
# What typed readers leave unread

A typed reader looks at everything in a tree but the members of records whose names have no place:
those it skips, and of what it skips it checks the grammar only.  The reader of values of any type
looks at these too, and it has limits.  `Reader.Leaves` says what is left to be checked of a tree
that a typed reader accepts, for the tree to be within the limits.  Readers of texts, truth values
and variants leave nothing, readers of lists leave what is left of the items, and readers of records
leave the members without a place and what is left of the others (`Reader.leaves_fields`).
-/

namespace ContentBlocking.Json

variable {α β σ : Type} {depth : ℕ}

/-- The items of an array. -/
def Node.items : Node → List Node
  | .array items _ => items
  | _ => []

/-- The member has one of these names. -/
def isPlaced (names : List String) (m : Quoted × Node) : Bool :=
  m.1.text.toOption.any names.contains

/-- The values of a record in its places, each with the name of its place. -/
def Node.placed (names : List String) : Node → List (String × Node)
  | .array items _ => names.zip items
  | .object members _ => members.filterMap fun m =>
      (m.1.text.toOption.filter names.contains).map (·, m.2)
  | _ => []

/-- The values of the members of a record that have no place in it. -/
def Node.unplaced (names : List String) : Node → List Node
  | .object members _ => (members.filter fun m => !isPlaced names m).map Prod.snd
  | _ => []

/-- What the reader accepts obeys the grammar, and it is within the limits under the condition. -/
def Reader.Leaves (read : Reader α) (depth : ℕ) (p : Node → Prop) : Prop :=
  ∀ ⦃node : Node⦄ ⦃a : α⦄, read node = .ok a →
    node.skip = .ok () ∧ (node.Within depth ↔ p node)

namespace Reader

/-! ### Plain readers -/

theorem leaves_string : Leaves string depth fun _ => True := by
  intro node s h
  cases node <;> simp only [string, reduceCtorEq] at h
  exact ⟨Node.skip_string_iff.2 (Quoted.fault_of_text h),
    iff_of_true (.string (Quoted.paired_of_text h)) trivial⟩

theorem leaves_bool : Leaves bool depth fun _ => True := by
  intro node b h
  cases node <;> simp only [bool, reduceCtorEq] at h
  exact ⟨rfl, iff_of_true .bool trivial⟩

theorem Leaves.congr {read : Reader α} {p q : Node → Prop} (h : Leaves read depth p)
    (hpq : ∀ node, p node ↔ q node) : Leaves read depth q :=
  fun node _ ha => (h ha).imp_right (Iff.trans · (hpq node))

theorem Leaves.bind {read : Reader α} {p : Node → Prop} (h : Leaves read depth p)
    (f : α → Except Error β) : Leaves (fun node => read node >>= f) depth p := by
  intro node b hb
  obtain ⟨a, ha, -⟩ := bind_eq_ok.1 hb
  exact h ha

theorem leaves_optional {read : Reader α} {p : Node → Prop} (h : Leaves read depth p)
    (hnull : p .null) : Leaves (optional read) depth p := by
  intro node o ho
  by_cases heq : node = .null
  · subst heq
    exact ⟨rfl, iff_of_true .null hnull⟩
  · rw [optional_of_ne_null heq] at ho
    obtain ⟨a, ha, -⟩ := map_eq_ok.1 ho
    exact h ha

theorem leaves_variant (ofName? : String → Option α) :
    Leaves (variant ofName?) (depth + 1) fun _ => True := by
  intro node a h
  cases node with
  | string q =>
    obtain ⟨s, hs, -⟩ := bind_eq_ok.1 h
    exact ⟨Node.skip_string_iff.2 (Quoted.fault_of_text hs),
      iff_of_true (.string (Quoted.paired_of_text hs)) trivial⟩
  | object members close =>
    obtain ⟨name, s, rfl, rfl, hs, -⟩ := variant_object_eq_ok h
    refine ⟨Node.skip_object_iff.2 ⟨?_, rfl⟩, iff_of_true (Node.within_object_iff.2 ?_) trivial⟩
    · rw [skipMembers_iff, List.forall_mem_singleton]
      exact ⟨Quoted.fault_of_text hs, rfl⟩
    · rw [List.forall_mem_singleton]
      exact ⟨Quoted.paired_of_text hs, .null⟩
  | _ => cases h

/-! ### Lists -/

/-- What a reader leaves of each item. -/
theorem Leaves.of_mapM {read : Reader α} {p : Node → Prop} (h : Leaves read depth p)
    {items : List Node} {as : List α} (has : items.mapM read = .ok as) :
    ∀ item ∈ items, item.skip = .ok () ∧ (item.Within depth ↔ p item) := by
  induction items generalizing as with
  | nil => simp
  | cons item items ih =>
    obtain ⟨a, as', ha, has', -⟩ := mapM_cons_eq_ok.1 has
    exact List.forall_mem_cons.2 ⟨h ha, ih has'⟩

theorem leaves_list {read : Reader α} {p : Node → Prop} (h : Leaves read depth p) :
    Leaves (list read) (depth + 1) fun node => ∀ item ∈ node.items, p item := by
  intro node as has
  cases node <;> simp only [list, reduceCtorEq] at has
  next items close =>
  obtain ⟨hmap, rfl⟩ := list_array_eq_ok.1 has
  have hitems := h.of_mapM hmap
  refine ⟨Node.skip_array_iff.2 ⟨skipItems_iff.2 fun item hitem => (hitems item hitem).1, rfl⟩, ?_⟩
  rw [Node.within_array_iff]
  exact forall₂_congr fun item hitem => (hitems item hitem).2

/-! ### Records -/

/-- What is left of the values of each slot. -/
def SlotsLeave (slots : List (Slot σ)) (depth : ℕ) (p : String → Node → Prop) : Prop :=
  ∀ slot ∈ slots, ∀ s, Leaves (slot.fill s) depth (p slot.name)

theorem leaves_slot {name : String} {get : σ → Option α} {set : σ → α → σ} {read : Reader α}
    {p : Node → Prop} (h : Leaves read depth p) (s : σ) :
    Leaves ((Slot.of name get set read).fill s) depth p := by
  intro node s' hs
  obtain ⟨a, ha, -⟩ := map_eq_ok.1 hs
  exact h ha

section Fields

variable {slots : List (Slot σ)} {p : String → Node → Prop} {s s' : σ}

theorem leaves_fillItems (h : SlotsLeave slots depth p) {items : List Node} {close : Close}
    (hs : fillItems s slots items close = .ok s') :
    close = .done ∧ (∀ item ∈ items, item.skip = .ok ()) ∧
      ((∀ item ∈ items, item.Within depth) ↔
        ∀ m ∈ (slots.map Slot.name).zip items, p m.1 m.2) := by
  induction items generalizing slots s with
  | nil =>
    refine ⟨?_, by simp, by simp⟩
    cases slots with
    | nil => cases close <;> first | rfl | cases hs
    | cons slot slots =>
      obtain ⟨⟨⟩, hclose, -⟩ := bind_eq_ok.1 hs
      exact Close.check_eq_ok_iff.1 hclose
  | cons item items ih =>
    cases slots with
    | nil => cases hs
    | cons slot slots =>
      rw [fillItems] at hs
      obtain ⟨r, hr, hs⟩ := bind_eq_ok.1 hs
      obtain ⟨hskip, hwithin⟩ := h slot List.mem_cons_self s hr
      obtain ⟨hclose, hskips, hwithins⟩ :=
        ih (fun slot' hslot' => h slot' (List.mem_cons_of_mem slot hslot')) hs
      refine ⟨hclose, List.forall_mem_cons.2 ⟨hskip, hskips⟩, ?_⟩
      rw [List.map_cons, List.zip_cons_cons, List.forall_mem_cons, List.forall_mem_cons, hwithin,
        hwithins]

/-- A name has a slot if it is the name of one. -/
theorem slot?_eq_none_iff {name : String} :
    slots.find? (·.name == name) = none ↔ (slots.map Slot.name).contains name = false := by
  rw [List.find?_eq_none, Bool.eq_false_iff, ne_eq, List.contains_iff_mem, List.mem_map]
  simp only [beq_iff_eq, not_exists, not_and]

theorem leaves_fillMembers (h : SlotsLeave slots depth p) {members : List (Quoted × Node)}
    (hs : fillMembers slots s members = .ok s') {close : Close} :
    (∀ m ∈ members, m.1.fault = none ∧ m.2.skip = .ok ()) ∧
      ((∀ m ∈ members, Paired m.1.pieces ∧ m.2.Within depth) ↔
        (∀ v ∈ (Node.object members close).unplaced (slots.map Slot.name), v.Within depth) ∧
          ∀ m ∈ (Node.object members close).placed (slots.map Slot.name), p m.1 m.2) := by
  induction members generalizing s with
  | nil => simp [Node.unplaced, Node.placed]
  | cons m members ih =>
    obtain ⟨name, node⟩ := m
    rw [fillMembers] at hs
    obtain ⟨n, hn, hs⟩ := bind_eq_ok.1 hs
    have htext : name.text.toOption = some n := toOption_eq_some.2 hn
    have hpaired := Quoted.paired_of_text hn
    cases hslot : slots.find? (·.name == n) with
    | none =>
      -- a member without a slot is skipped
      simp only [hslot] at hs
      obtain ⟨⟨⟩, hskip, hs⟩ := bind_eq_ok.1 hs
      obtain ⟨hskips, hwithins⟩ := ih hs
      have hname := slot?_eq_none_iff.1 hslot
      refine ⟨List.forall_mem_cons.2 ⟨⟨Quoted.fault_of_text hn, hskip⟩, hskips⟩, ?_⟩
      rw [List.forall_mem_cons, hwithins]
      simp only [Node.unplaced, Node.placed, isPlaced, htext, hname, hpaired, List.filter_cons,
        List.filterMap_cons, Option.any_some, Bool.not_false, if_true, List.map_cons,
        List.forall_mem_cons, Option.filter_some, Bool.false_eq_true, if_false, Option.map_none,
        true_and, and_assoc]
    | some slot =>
      simp only [hslot] at hs
      have hmem := List.mem_of_find?_eq_some hslot
      obtain rfl : slot.name = n := by simpa using List.find?_some hslot
      have hname : (slots.map Slot.name).contains slot.name = true :=
        List.contains_iff_mem.2 (List.mem_map.2 ⟨slot, hmem, rfl⟩)
      by_cases hfilled : slot.isFilled s = true
      · rw [if_pos hfilled] at hs
        cases hs
      · rw [if_neg hfilled] at hs
        obtain ⟨r, hr, hs⟩ := bind_eq_ok.1 hs
        obtain ⟨hskip, hwithin⟩ := h slot hmem s hr
        obtain ⟨hskips, hwithins⟩ := ih hs
        refine ⟨List.forall_mem_cons.2 ⟨⟨Quoted.fault_of_text hn, hskip⟩, hskips⟩, ?_⟩
        rw [List.forall_mem_cons, hwithins]
        simp only [Node.unplaced, Node.placed, isPlaced, htext, hname, hpaired, hwithin,
          List.filter_cons, List.filterMap_cons, Option.any_some, Bool.not_true,
          Bool.false_eq_true, if_false, Option.filter_some, if_true, Option.map_some,
          List.forall_mem_cons, true_and]
        exact and_left_comm

/-- **A reader of records leaves the members that have no place**, and what is left of the
others. -/
theorem leaves_fields (h : SlotsLeave slots depth p) (blank : σ) :
    Leaves (fields slots blank) (depth + 1) fun node =>
      (∀ v ∈ node.unplaced (slots.map Slot.name), v.Within depth) ∧
        ∀ m ∈ node.placed (slots.map Slot.name), p m.1 m.2 := by
  intro node s hs
  cases node <;> simp only [fields, reduceCtorEq] at hs
  next items close =>
    obtain ⟨rfl, hskips, hwithins⟩ := leaves_fillItems h hs
    refine ⟨Node.skip_array_iff.2 ⟨skipItems_iff.2 hskips, rfl⟩, ?_⟩
    rw [Node.within_array_iff, hwithins]
    exact (and_iff_right (by simp [Node.unplaced])).symm
  next members close =>
    obtain ⟨hfill, rfl⟩ := fields_object_eq_ok.1 hs
    obtain ⟨hskips, hwithins⟩ := leaves_fillMembers h hfill
    exact ⟨Node.skip_object_iff.2 ⟨skipMembers_iff.2 hskips, rfl⟩,
      Node.within_object_iff.trans hwithins⟩

end Fields

end Reader

end ContentBlocking.Json
