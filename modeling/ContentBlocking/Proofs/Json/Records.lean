import Mathlib.Data.List.Induction
import Mathlib.Data.List.Nodup
import Mathlib.Data.List.Pairwise
import ContentBlocking.Proofs.Json.Members
import ContentBlocking.Proofs.Json.Rereading

/-!
# Reading rewritten records

A rewritten object has its members sorted by name, and of equal names only the last one.  A reader
of a record does not notice (`Reader.stable_fields`) if its slots are `Slots.Lawful`: filling
different slots commutes, so the order of the members is of no account, and no slot is filled twice,
so no name with a slot was lost.  `Reader.Stable.run_compact` draws the conclusion for whole texts.
-/

namespace ContentBlocking.Json

variable {σ α : Type}

/-! ### Slots -/

/-- A slot that is filled for good, by a value that may be rewritten. -/
structure Slot.Lawful (p : Slot σ) : Prop where
  stable : ∀ s, Reader.Stable (p.fill s)
  filled : ∀ {s s' : σ} {node : Node}, p.fill s node = .ok s' → p.isFilled s' = true

/-- Filling a slot may be put off until another one was filled. -/
structure Slot.Yields (p q : Slot σ) : Prop where
  keeps : ∀ {s s' : σ} {node : Node}, p.fill s node = .ok s' → q.isFilled s' = q.isFilled s
  swap : ∀ {s s' s'' : σ} {x y : Node}, p.fill s x = .ok s' → q.fill s' y = .ok s'' →
    ∃ r, q.fill s y = .ok r ∧ p.fill r x = .ok s''

/-- Two slots that take no notice of each other. -/
def Slot.Apart (p q : Slot σ) : Prop := p.Yields q ∧ q.Yields p

theorem Slot.Apart.symm {p q : Slot σ} (h : p.Apart q) : q.Apart p := ⟨h.2, h.1⟩

/-- The slots of a record whose members may come in any order. -/
structure Slots.Lawful (slots : List (Slot σ)) : Prop where
  each : ∀ p ∈ slots, p.Lawful
  apart : slots.Pairwise Slot.Apart

theorem Slots.Lawful.apart_of_ne {slots : List (Slot σ)} (h : Slots.Lawful slots) {p q : Slot σ}
    (hp : p ∈ slots) (hq : q ∈ slots) (hpq : p ≠ q) : p.Apart q := by
  have hsymm : Std.Symm (Slot.Apart (σ := σ)) := ⟨fun _ _ => Slot.Apart.symm⟩
  exact h.apart.forall hp hq hpq

theorem Slot.lawful_of {name : String} {get : σ → Option α} {set : σ → α → σ} {read : Reader α}
    (hread : read.Stable) (h : ∀ s a, get (set s a) = some a) :
    (Slot.of name get set read).Lawful where
  stable s := hread.map (set s)
  filled := by
    intro s s' node hs
    obtain ⟨a, -, rfl⟩ := map_eq_ok.1 hs
    simp only [Slot.of, h, Option.isSome_some]

theorem Slot.yields_of {β : Type} {name name' : String} {get : σ → Option α} {set : σ → α → σ}
    {read : Reader α} {get' : σ → Option β} {set' : σ → β → σ} {read' : Reader β}
    (hget : ∀ s a, get' (set s a) = get' s)
    (hset : ∀ s a b, set' (set s a) b = set (set' s b) a) :
    (Slot.of name get set read).Yields (Slot.of name' get' set' read') where
  keeps := by
    intro s s' node hs
    obtain ⟨a, -, rfl⟩ := map_eq_ok.1 hs
    simp only [Slot.of, hget]
  swap := by
    intro s s' s'' x y hs hs'
    obtain ⟨a, ha, rfl⟩ := map_eq_ok.1 hs
    obtain ⟨b, hb, rfl⟩ := map_eq_ok.1 hs'
    refine ⟨set' s b, map_eq_ok.2 ⟨b, hb, rfl⟩, map_eq_ok.2 ⟨a, ha, ?_⟩⟩
    rw [hset]

/-- Slots for different places of a record are apart. -/
theorem Slot.apart_of {β : Type} {name name' : String} {get : σ → Option α} {set : σ → α → σ}
    {read : Reader α} {get' : σ → Option β} {set' : σ → β → σ} {read' : Reader β}
    (hget : ∀ s a, get' (set s a) = get' s) (hget' : ∀ s b, get (set' s b) = get s)
    (hset : ∀ s a b, set' (set s a) b = set (set' s b) a) :
    (Slot.of name get set read).Apart (Slot.of name' get' set' read') :=
  ⟨yields_of hget hset, yields_of hget' fun s b a => (hset s a b).symm⟩

/-! ### Members with slots -/

/-- The slot for a name. -/
def slot? (slots : List (Slot σ)) (name : String) : Option (Slot σ) :=
  slots.find? (·.name == name)

theorem slot?_mem {slots : List (Slot σ)} {name : String} {p : Slot σ}
    (h : slot? slots name = some p) : p ∈ slots :=
  List.mem_of_find?_eq_some h

/-- The members of an object that have slots. -/
def slotted (slots : List (Slot σ)) (members : List (String × Value)) : List (Slot σ × Value) :=
  members.filterMap fun m => (slot? slots m.1).map (·, m.2)

theorem mem_slots_of_mem_slotted {slots : List (Slot σ)} {members : List (String × Value)}
    {m : Slot σ × Value} (h : m ∈ slotted slots members) : m.1 ∈ slots := by
  obtain ⟨n, -, hn⟩ := List.mem_filterMap.1 h
  obtain ⟨p, hp, rfl⟩ := Option.map_eq_some_iff.1 hn
  exact slot?_mem hp

/-- The record with slots filled one after the other, none of them twice. -/
def fillEach (s : σ) : List (Slot σ × Value) → Except Error σ
  | [] => .ok s
  | (p, v) :: rest =>
    if p.isFilled s then .error .mismatched
    else do fillEach (← p.fill s (Node.ofValue v)) rest

theorem fillEach_cons_eq_ok {s s' : σ} {p : Slot σ} {v : Value} {rest : List (Slot σ × Value)} :
    fillEach s ((p, v) :: rest) = .ok s' ↔
      p.isFilled s = false ∧ ∃ r, p.fill s (Node.ofValue v) = .ok r ∧ fillEach r rest = .ok s' := by
  rw [fillEach]
  by_cases h : p.isFilled s = true
  · rw [if_pos h]
    simp [h]
  · rw [if_neg h, bind_eq_ok]
    simp [h]

theorem fillMembers_ofMembers (slots : List (Slot σ)) (s : σ) (members : List (String × Value)) :
    fillMembers slots s (Node.ofMembers members) = fillEach s (slotted slots members) := by
  induction members generalizing s with
  | nil => rfl
  | cons m members ih =>
    obtain ⟨name, v⟩ := m
    rw [Node.ofMembers, fillMembers, Quoted.text_ofString, ok_bind]
    cases hslot : slots.find? (·.name == name) with
    | none =>
      have : slotted slots ((name, v) :: members) = slotted slots members := by
        rw [slotted, List.filterMap_cons, slot?, hslot]
        rfl
      rw [this, ← ih]
      simp only [Node.skip_ofValue, ok_bind]
    | some p =>
      have : slotted slots ((name, v) :: members) = (p, v) :: slotted slots members := by
        rw [slotted, List.filterMap_cons, slot?, hslot]
        rfl
      rw [this, fillEach]
      simp only [ih]

/-- Members that were read fill the slots as their rewritten values do. -/
theorem fillEach_of_fillMembers {slots : List (Slot σ)} (h : ∀ p ∈ slots, p.Lawful) {depth : Nat}
    {members : List (Quoted × Node)} {ms : List (String × Value)} {s s' : σ}
    (hms : Value.ofMembers depth members = .ok ms) (hs : fillMembers slots s members = .ok s') :
    fillEach s (slotted slots ms) = .ok s' := by
  induction members generalizing ms s with
  | nil =>
    cases hms
    exact hs
  | cons m members ih =>
    obtain ⟨name, node⟩ := m
    obtain ⟨n, v, ms', hn, hv, hms', rfl⟩ := Value.ofMembers_cons hms
    rw [fillMembers, hn, ok_bind] at hs
    rw [← fillMembers_ofMembers, Node.ofMembers, fillMembers, Quoted.text_ofString, ok_bind]
    cases hslot : slots.find? (·.name == n) with
    | none =>
      -- a member without a slot is skipped, also when it is rewritten
      simp only [hslot] at hs
      obtain ⟨⟨⟩, -, hs⟩ := bind_eq_ok.1 hs
      simp only [Node.skip_ofValue, ok_bind, fillMembers_ofMembers]
      exact ih hms' hs
    | some p =>
      simp only [hslot] at hs
      by_cases hp : p.isFilled s = true
      · rw [if_pos hp] at hs
        cases hs
      · rw [if_neg hp] at hs
        obtain ⟨r, hr, hs⟩ := bind_eq_ok.1 hs
        simp only [if_neg hp, (h p (slot?_mem hslot)).stable s hv hr, ok_bind,
          fillMembers_ofMembers]
        exact ih hms' hs

/-- A slot that is filled is not filled again. -/
theorem ne_of_fillEach {slots : List (Slot σ)} (h : Slots.Lawful slots)
    {l : List (Slot σ × Value)} (hl : ∀ m ∈ l, m.1 ∈ slots) {p : Slot σ} (hp : p ∈ slots)
    {s s' : σ} (hfilled : p.isFilled s = true) (hs : fillEach s l = .ok s') :
    ∀ m ∈ l, p ≠ m.1 := by
  induction l generalizing s with
  | nil => simp
  | cons m l ih =>
    obtain ⟨q, v⟩ := m
    obtain ⟨hq, r, hr, hs⟩ := fillEach_cons_eq_ok.1 hs
    have hpq : p ≠ q := by
      rintro rfl
      rw [hfilled] at hq
      cases hq
    have hkept : p.isFilled r = true := by
      rw [(h.apart_of_ne hp (hl _ List.mem_cons_self) hpq).2.keeps hr, hfilled]
    intro n hn
    rcases List.mem_cons.1 hn with rfl | hn
    · exact hpq
    · exact ih (fun k hk => hl k (List.mem_cons_of_mem _ hk)) hkept hs n hn

theorem pairwise_ne_of_fillEach {slots : List (Slot σ)} (h : Slots.Lawful slots)
    {l : List (Slot σ × Value)} (hl : ∀ m ∈ l, m.1 ∈ slots) {s s' : σ}
    (hs : fillEach s l = .ok s') : l.Pairwise fun m n => m.1 ≠ n.1 := by
  induction l generalizing s with
  | nil => exact List.Pairwise.nil
  | cons m l ih =>
    obtain ⟨p, v⟩ := m
    obtain ⟨-, r, hr, hs⟩ := fillEach_cons_eq_ok.1 hs
    have hp : p ∈ slots := hl _ List.mem_cons_self
    have hl' : ∀ m ∈ l, m.1 ∈ slots := fun k hk => hl k (List.mem_cons_of_mem _ hk)
    exact .cons (ne_of_fillEach h hl' hp ((h.each p hp).filled hr) hs) (ih hl' hs)

/-- The order in which slots are filled is of no account. -/
theorem fillEach_perm {l l' : List (Slot σ × Value)} (hp : l.Perm l')
    (h : l.Pairwise fun m n => m.1.Apart n.1) {s s' : σ} (hs : fillEach s l = .ok s') :
    fillEach s l' = .ok s' := by
  induction hp generalizing s with
  | nil => exact hs
  | cons m _ ih =>
    obtain ⟨p, v⟩ := m
    obtain ⟨hfilled, r, hr, hs⟩ := fillEach_cons_eq_ok.1 hs
    exact fillEach_cons_eq_ok.2 ⟨hfilled, r, hr, ih (List.pairwise_cons.1 h).2 hs⟩
  | swap m n l =>
    obtain ⟨q, w⟩ := m
    obtain ⟨p, v⟩ := n
    have hapart : p.Apart q := (List.pairwise_cons.1 h).1 (q, w) List.mem_cons_self
    obtain ⟨hp, r, hr, hs⟩ := fillEach_cons_eq_ok.1 hs
    obtain ⟨hq, t, ht, hs⟩ := fillEach_cons_eq_ok.1 hs
    obtain ⟨u, hu, hut⟩ := hapart.1.swap hr ht
    refine fillEach_cons_eq_ok.2 ⟨?_, u, hu, fillEach_cons_eq_ok.2 ⟨?_, t, hut, hs⟩⟩
    · rw [← hapart.1.keeps hr, hq]
    · rw [hapart.2.keeps hu, hp]
  | trans hp₁ _ ih₁ ih₂ =>
    exact ih₂ (hp₁.pairwise h Slot.Apart.symm) (ih₁ h hs)

/-! ### Sorted members -/

/-- Sorting loses no member with a slot if no slot has two of them. -/
theorem slotted_sortMembers_perm {slots : List (Slot σ)} {ms : List (String × Value)}
    (h : (slotted slots ms).Pairwise fun m n => m.1 ≠ n.1) :
    (slotted slots (sortMembers ms)).Perm (slotted slots ms) := by
  have hfilter : ∀ l, slotted slots (l.filter fun m => (slot? slots m.1).isSome) =
      slotted slots l := by
    intro l
    rw [slotted, slotted, List.filterMap_filter]
    refine List.filterMap_congr fun m _ => ?_
    cases slot? slots m.1 <;> rfl
  have hnames : Distinct (ms.filter fun m => (slot? slots m.1).isSome) := by
    rw [slotted, List.pairwise_filterMap] at h
    rw [Distinct, List.pairwise_filter]
    refine h.imp ?_
    intro m n hmn hm hn heq
    obtain ⟨p, hp⟩ := Option.isSome_iff_exists.1 hm
    have hq : slot? slots n.1 = some p := heq ▸ hp
    exact hmn (p, m.2) (by rw [hp]; rfl) (p, n.2) (by rw [hq]; rfl) rfl
  rw [← hfilter (sortMembers ms), ← hfilter ms]
  refine List.Perm.filterMap _ ?_
  rw [List.perm_ext_iff_of_nodup (((distinct_sortMembers ms).filter _).nodup) (hnames.nodup)]
  intro m
  rw [List.mem_filter, List.mem_filter]
  refine ⟨fun hm => ⟨mem_of_mem_sortMembers hm.1, hm.2⟩, fun hm => ⟨?_, hm.2⟩⟩
  -- no other member with a slot has the name of `m`
  refine mem_sortMembers_of_unique hm.1 fun v hv => ?_
  exact hnames.eq_of_mem (List.mem_filter.2 ⟨hv, hm.2⟩) (List.mem_filter.2 hm)

/-! ### Records -/

namespace Reader

theorem fields_object_eq_ok {slots : List (Slot σ)} {blank s : σ} {members : List (Quoted × Node)}
    {close : Close} : fields slots blank (.object members close) = .ok s ↔
      fillMembers slots blank members = .ok s ∧ close = .done := by
  rw [fields]
  constructor
  · intro h
    obtain ⟨r, hr, h⟩ := bind_eq_ok.1 h
    obtain ⟨⟨⟩, hclose, h⟩ := bind_eq_ok.1 h
    cases pure_eq_ok_iff.1 h
    exact ⟨hr, Close.check_eq_ok_iff.1 hclose⟩
  · rintro ⟨hs, rfl⟩
    rw [hs]
    rfl

theorem fillItems_ofItems {slots : List (Slot σ)} (h : ∀ p ∈ slots, p.Lawful) {depth : Nat}
    {items : List Node} {vs : List Value} {s s' : σ} (hvs : Value.ofItems depth items = .ok vs)
    (hs : fillItems s slots items .done = .ok s') :
    fillItems s slots (Node.ofItems vs) .done = .ok s' := by
  induction items generalizing slots vs s with
  | nil =>
    cases hvs
    exact hs
  | cons item items ih =>
    obtain ⟨v, vs', hv, hvs', rfl⟩ := Value.ofItems_cons hvs
    cases slots with
    | nil => cases hs
    | cons p slots =>
      rw [fillItems] at hs
      obtain ⟨r, hr, hs⟩ := bind_eq_ok.1 hs
      rw [Node.ofItems, fillItems, (h p List.mem_cons_self).stable s hv hr, ok_bind]
      exact ih (fun q hq => h q (List.mem_cons_of_mem p hq)) hvs' hs

theorem stable_fields {slots : List (Slot σ)} (h : Slots.Lawful slots) (blank : σ) :
    Stable (fields slots blank) := by
  intro depth node v s hv hs
  cases node <;> simp only [fields, reduceCtorEq] at hs
  next items close =>
    obtain ⟨d, vs, hvs, rfl, rfl⟩ := Value.ofNode_array hv
    exact fillItems_ofItems h.each hvs hs
  next members close =>
    obtain ⟨d, ms, hms, rfl, rfl⟩ := Value.ofNode_object hv
    have hfill := fillEach_of_fillMembers h.each hms (fields_object_eq_ok.1 hs).1
    have hmem : ∀ {ms : List (String × Value)}, ∀ m ∈ slotted slots ms, m.1 ∈ slots :=
      fun _ hm => mem_slots_of_mem_slotted hm
    have hne := pairwise_ne_of_fillEach h hmem hfill
    have hapart : (slotted slots ms).Pairwise fun m n => m.1.Apart n.1 :=
      hne.imp_of_mem fun hm hn hmn => h.apart_of_ne (hmem _ hm) (hmem _ hn) hmn
    refine fields_object_eq_ok.2 ⟨?_, rfl⟩
    rw [fillMembers_ofMembers]
    exact fillEach_perm (slotted_sortMembers_perm hne).symm hapart hfill

/-! ### Variants -/

theorem variant_object_eq_ok {ofName? : String → Option α} {members : List (Quoted × Node)}
    {close : Close} {a : α} (h : variant ofName? (.object members close) = .ok a) :
    ∃ name n, members = [(name, .null)] ∧ close = .done ∧ name.text = .ok n ∧
      ofName? n = some a := by
  cases members with
  | nil => cases close <;> cases h
  | cons m members =>
    obtain ⟨name, node⟩ := m
    rw [variant] at h
    obtain ⟨n, hn, h⟩ := bind_eq_ok.1 h
    cases hname : ofName? n with
    | none => rw [hname] at h; cases h
    | some b =>
      rw [hname] at h
      cases node <;> first | cases h | skip
      cases members <;> cases close <;> cases h
      exact ⟨name, n, rfl, rfl, hn, hname⟩

theorem stable_variant (ofName? : String → Option α) : Stable (variant ofName?) := by
  intro depth node v a hv ha
  cases node with
  | string q =>
    rw [variant] at ha
    obtain ⟨n, hn, ha⟩ := bind_eq_ok.1 ha
    rw [Value.ofNode, hn] at hv
    cases hv
    rw [Node.ofValue, variant, Quoted.text_ofString, ok_bind]
    exact ha
  | object members close =>
    obtain ⟨name, n, rfl, rfl, hn, hname⟩ := variant_object_eq_ok ha
    obtain ⟨d, ms, hms, -, rfl⟩ := Value.ofNode_object hv
    obtain ⟨m, w, ms', hm, hw, hms', rfl⟩ := Value.ofMembers_cons hms
    cases hms'
    cases hw
    rw [hn] at hm
    cases hm
    rw [sortMembers_singleton, Node.ofValue, Node.ofMembers, Node.ofMembers, Node.ofValue, variant,
      Quoted.text_ofString, ok_bind, hname]
    rfl
  | _ => cases ha

/-! ### Whole texts -/

theorem run_compact (read : Reader α) (v : Value) : read.run v.compact = read (Node.ofValue v) := by
  rw [run, Document.read_compact]
  cases read (Node.ofValue v) <;> rfl

/-- **A stable reader does not notice that a text was rewritten.** -/
theorem Stable.run_compact {read : Reader α} (h : Stable read) {text : String} {v : Value} {a : α}
    (hv : any.run text = .ok v) (ha : read.run text = .ok a) : read.run v.compact = .ok a := by
  rw [Reader.run_compact]
  exact h (run_eq_ok.1 hv).1 (run_eq_ok.1 ha).1

end Reader

end ContentBlocking.Json
