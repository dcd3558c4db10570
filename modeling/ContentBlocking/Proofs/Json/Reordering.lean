import ContentBlocking.Proofs.Json.Limits
import ContentBlocking.Proofs.Json.Members
import Mathlib.Data.List.Perm.Basic

/-!
# The order of members

A value that was read without a type has its members sorted by name, so it does not tell in which
order they were written.  `Node.Reordered` relates two trees whose objects, at any depth, have the
same members in any order.  If no object has two members of one name (`Node.DistinctNames`), two
such trees have one value (`Node.Reordered.ofNode_eq_ok`), and texts that spell them cannot be told
apart by the reader of values (`Reader.any_run_eq_of_reordered`).
-/

namespace ContentBlocking.Json

/-- The same tree but for the order of the members of its objects. -/
inductive Node.Reordered : Node → Node → Prop
  | refl (node : Node) : Reordered node node
  | trans {a b c : Node} (hab : Reordered a b) (hbc : Reordered b c) : Reordered a c
  | perm {members members' : List (Quoted × Node)} {close : Close} (h : members.Perm members') :
      Reordered (.object members close) (.object members' close)
  | item {front back : List Node} {node node' : Node} {close : Close} (h : Reordered node node') :
      Reordered (.array (front ++ node :: back) close) (.array (front ++ node' :: back) close)
  | member {front back : List (Quoted × Node)} {name : Quoted} {node node' : Node} {close : Close}
      (h : Reordered node node') : Reordered (.object (front ++ (name, node) :: back) close)
        (.object (front ++ (name, node') :: back) close)

/-- No object of the tree has two members of one name. -/
inductive Node.DistinctNames : Node → Prop
  | null : DistinctNames .null
  | bool {b : Bool} : DistinctNames (.bool b)
  | number {n : Numeral} : DistinctNames (.number n)
  | string {q : Quoted} : DistinctNames (.string q)
  | array {items : List Node} {close : Close} (h : ∀ item ∈ items, DistinctNames item) :
      DistinctNames (.array items close)
  | object {members : List (Quoted × Node)} {close : Close}
      (hname : (members.map Prod.fst).Pairwise fun p q => ∀ s, p.text = .ok s → q.text ≠ .ok s)
      (hvalue : ∀ m ∈ members, DistinctNames m.2) : DistinctNames (.object members close)

section

variable {node node' : Node}

theorem Node.Reordered.symm (h : node.Reordered node') : node'.Reordered node := by
  induction h with
  | refl node => exact .refl node
  | trans _ _ hab hbc => exact hbc.trans hab
  | perm h => exact .perm h.symm
  | item _ ih => exact .item ih
  | member _ ih => exact .member ih

theorem distinctNames_array_iff {items : List Node} {close : Close} :
    (Node.array items close).DistinctNames ↔ ∀ item ∈ items, item.DistinctNames := by
  refine ⟨fun h => ?_, .array⟩
  cases h with
  | array h => exact h

theorem distinctNames_object_iff {members : List (Quoted × Node)} {close : Close} :
    (Node.object members close).DistinctNames ↔
      ((members.map Prod.fst).Pairwise fun p q => ∀ s, p.text = .ok s → q.text ≠ .ok s) ∧
        ∀ m ∈ members, m.2.DistinctNames := by
  refine ⟨fun h => ?_, fun h => .object h.1 h.2⟩
  cases h with
  | object hname hvalue => exact ⟨hname, hvalue⟩

theorem Node.Reordered.distinctNames (h : node.Reordered node') (hd : node.DistinctNames) :
    node'.DistinctNames := by
  induction h with
  | refl => exact hd
  | trans _ _ hab hbc => exact hbc (hab hd)
  | perm h =>
    rw [distinctNames_object_iff] at hd ⊢
    exact ⟨((h.map Prod.fst).pairwise_iff fun hpq s hq hp => hpq s hp hq).1 hd.1,
      fun m hm => hd.2 m (h.mem_iff.2 hm)⟩
  | item _ ih =>
    rw [distinctNames_array_iff, List.forall_mem_append, List.forall_mem_cons] at hd ⊢
    exact ⟨hd.1, ih hd.2.1, hd.2.2⟩
  | member _ ih =>
    rw [distinctNames_object_iff, List.forall_mem_append, List.forall_mem_cons, List.map_append,
      List.map_cons] at hd ⊢
    exact ⟨hd.1, hd.2.1, ih hd.2.2.1, hd.2.2.2⟩

/-! ### Values -/

variable {depth : ℕ}

theorem Value.ofItems_eq_ok_iff {items : List Node} {vs : List Value} :
    Value.ofItems depth items = .ok vs ↔
      List.Forall₂ (fun item v => Value.ofNode depth item = .ok v) items vs := by
  induction items generalizing vs with
  | nil => simp [Value.ofItems, eq_comm]
  | cons item items ih =>
    rw [List.forall₂_cons_left_iff]
    constructor
    · intro h
      obtain ⟨v, vs', hv, hvs, rfl⟩ := Value.ofItems_cons h
      exact ⟨v, vs', hv, ih.1 hvs, rfl⟩
    · rintro ⟨v, vs', hv, hvs, rfl⟩
      rw [Value.ofItems, hv, ok_bind, ih.2 hvs]
      rfl

/-- The member with its name and its value read. -/
def IsMember (depth : ℕ) (member : Quoted × Node) (m : String × Value) : Prop :=
  member.1.text = .ok m.1 ∧ Value.ofNode depth member.2 = .ok m.2

theorem Value.ofMembers_eq_ok_iff {members : List (Quoted × Node)} {ms : List (String × Value)} :
    Value.ofMembers depth members = .ok ms ↔ List.Forall₂ (IsMember depth) members ms := by
  induction members generalizing ms with
  | nil => simp [Value.ofMembers, eq_comm]
  | cons member members ih =>
    obtain ⟨name, node⟩ := member
    rw [List.forall₂_cons_left_iff]
    constructor
    · intro h
      obtain ⟨n, v, ms', hn, hv, hms, rfl⟩ := Value.ofMembers_cons h
      exact ⟨(n, v), ms', ⟨hn, hv⟩, ih.1 hms, rfl⟩
    · rintro ⟨⟨n, v⟩, ms', ⟨hn, hv⟩, hms, rfl⟩
      simp only at hn hv
      rw [Value.ofMembers, hn, ok_bind, hv, ok_bind, ih.2 hms]
      rfl

theorem exists_of_forall₂ {α β : Type} {r : α → β → Prop} {as : List α} {bs : List β}
    (h : List.Forall₂ r as bs) : ∀ b ∈ bs, ∃ a ∈ as, r a b := by
  induction h with
  | nil => simp
  | cons hab _ ih =>
    rw [List.forall_mem_cons]
    refine ⟨⟨_, List.mem_cons_self, hab⟩, fun b hb => ?_⟩
    obtain ⟨a, ha, hab⟩ := ih b hb
    exact ⟨a, List.mem_cons_of_mem _ ha, hab⟩

/-- Names that are distinct as they are written are distinct when they are read. -/
theorem distinct_of_forall₂ {members : List (Quoted × Node)} {ms : List (String × Value)}
    (h : List.Forall₂ (IsMember depth) members ms)
    (hname : (members.map Prod.fst).Pairwise fun p q => ∀ s, p.text = .ok s → q.text ≠ .ok s) :
    Distinct ms := by
  induction h with
  | nil => exact .nil
  | cons hm hms ih =>
    rw [List.map_cons, List.pairwise_cons] at hname
    refine .cons (fun n hn heq => ?_) (ih hname.2)
    obtain ⟨member, hmember, hn'⟩ := exists_of_forall₂ hms n hn
    exact hname.1 _ (List.mem_map_of_mem hmember) _ hm.1 (heq ▸ hn'.1)

theorem sortMembers_eq_of_perm {ms ms' : List (String × Value)} (hp : ms.Perm ms')
    (h : Distinct ms) : sortMembers ms = sortMembers ms' := by
  have h' : Distinct ms' := hp.pairwise h Ne.symm
  have hsorted : (sortMembers ms).Perm (sortMembers ms') :=
    ((sortMembers_perm h).trans hp).trans (sortMembers_perm h').symm
  exact congrArg Std.ExtTreeMap.toList (Std.ExtTreeMap.ext_toList hsorted)

/-- The members of an object that was read are sorted. -/
theorem Value.exists_sortMembers_of_object {ms : List (String × Value)}
    (h : Value.ofNode depth node = .ok (.object ms)) :
    ∃ d members ms', Value.ofMembers d members = .ok ms' ∧ ms = sortMembers ms' := by
  cases node with
  | object members close =>
    obtain ⟨d, ms', hms, -, heq⟩ := Value.ofNode_object h
    exact ⟨d, members, ms', hms, Value.object.inj heq⟩
  | array items close =>
    obtain ⟨d, vs, -, -, heq⟩ := Value.ofNode_array h
    cases heq
  | number n =>
    obtain ⟨v, -, heq⟩ := map_eq_ok.1 h
    cases heq
  | string q =>
    obtain ⟨s, -, heq⟩ := map_eq_ok.1 h
    cases heq
  | _ => cases h

/-- So are those of its members that are objects. -/
theorem Value.exists_sortMembers_of_get? {root : Value} {name : String}
    {ms : List (String × Value)} (h : Value.ofNode depth node = .ok root)
    (hget : root.get? name = some (.object ms)) : ∃ ms', ms = sortMembers ms' := by
  cases root with
  | object rs =>
    obtain ⟨d, members, rs', hrs, rfl⟩ := Value.exists_sortMembers_of_object h
    rw [Value.get?_object_iff (distinct_sortMembers rs')] at hget
    obtain ⟨member, -, -, hvalue⟩ := exists_of_forall₂ (Value.ofMembers_eq_ok_iff.1 hrs) _
      (mem_of_mem_sortMembers hget)
    obtain ⟨-, -, ms', -, rfl⟩ := Value.exists_sortMembers_of_object hvalue
    exact ⟨ms', rfl⟩
  | _ => cases hget

/-- One item is replaced by another that is related to as much. -/
theorem forall₂_replace {α β : Type} {r : α → β → Prop} {front back : List α} {a : α}
    (a' : α) {bs : List β} (hr : ∀ b, r a b → r a' b) (h : List.Forall₂ r (front ++ a :: back) bs) :
    List.Forall₂ r (front ++ a' :: back) bs := by
  induction front generalizing bs with
  | nil =>
    rw [List.nil_append, List.forall₂_cons_left_iff] at h ⊢
    obtain ⟨b, bs, hab, hback, rfl⟩ := h
    exact ⟨b, bs, hr b hab, hback, rfl⟩
  | cons c front ih =>
    rw [List.cons_append, List.forall₂_cons_left_iff] at h ⊢
    obtain ⟨b, bs, hcb, hmore, rfl⟩ := h
    exact ⟨b, bs, hcb, ih hmore, rfl⟩

/-- **The order of members does not matter to a value.** -/
theorem Node.Reordered.ofNode_eq_ok (h : node.Reordered node') (hd : node.DistinctNames)
    {v : Value} (hv : Value.ofNode depth node = .ok v) : Value.ofNode depth node' = .ok v := by
  induction h generalizing depth v with
  | refl => exact hv
  | trans hab _ ihab ihbc => exact ihbc (hab.distinctNames hd) (ihab hd hv)
  | perm hp =>
    cases depth with
    | zero => cases hv
    | succ depth =>
      rw [Value.ofNode] at hv ⊢
      obtain ⟨ms, hms, hv⟩ := bind_eq_ok.1 hv
      rw [Value.ofMembers_eq_ok_iff] at hms
      obtain ⟨ms', hms', hperm⟩ := List.perm_comp_forall₂ hp.symm hms
      -- of two members with one name the later one would stay, so their order would count
      have hdistinct := distinct_of_forall₂ hms (distinctNames_object_iff.1 hd).1
      refine bind_eq_ok.2 ⟨ms', Value.ofMembers_eq_ok_iff.2 hms', ?_⟩
      rw [← sortMembers_eq_of_perm hperm.symm hdistinct]
      exact hv
  | @item front back node node' _ _ ih =>
    cases depth with
    | zero => cases hv
    | succ depth =>
      have hnode : node.DistinctNames := distinctNames_array_iff.1 hd node (by simp)
      rw [Value.ofNode] at hv ⊢
      obtain ⟨vs, hvs, hv⟩ := bind_eq_ok.1 hv
      rw [Value.ofItems_eq_ok_iff] at hvs
      have hvs' := forall₂_replace node' (fun v => ih hnode) hvs
      exact bind_eq_ok.2 ⟨vs, Value.ofItems_eq_ok_iff.2 hvs', hv⟩
  | @member front back name node node' _ _ ih =>
    cases depth with
    | zero => cases hv
    | succ depth =>
      have hnode : node.DistinctNames :=
        (distinctNames_object_iff.1 hd).2 (name, node) (by simp)
      rw [Value.ofNode] at hv ⊢
      obtain ⟨ms, hms, hv⟩ := bind_eq_ok.1 hv
      rw [Value.ofMembers_eq_ok_iff] at hms
      have hms' := forall₂_replace (name, node') (fun m hm => ⟨hm.1, ih hnode hm.2⟩) hms
      exact bind_eq_ok.2 ⟨ms, Value.ofMembers_eq_ok_iff.2 hms', hv⟩

/-- **Texts that differ in the order of members have one value**, or are both refused. -/
theorem Reader.any_run_eq_of_reordered {text text' : String} (h : node.SpelledAs text.toList)
    (h' : node'.SpelledAs text'.toList) (hr : node.Reordered node') (hd : node.DistinctNames) :
    Reader.any.run text' = Reader.any.run text := by
  have hroot : Value.ofNode maxDepth node' = Value.ofNode maxDepth node := by
    have hspec := h.ofNode_succeedsIff maxDepth
    have hspec' := h'.ofNode_succeedsIff maxDepth
    by_cases hwithin : node.Within maxDepth
    · obtain ⟨v, hv⟩ := hspec.succeeds hwithin
      rw [hv, hr.ofNode_eq_ok hd hv]
    · rw [hspec.fails hwithin]
      refine hspec'.fails fun hwithin' => hwithin (hspec.iff.1 ?_)
      obtain ⟨v, hv⟩ := hspec'.succeeds hwithin'
      exact ⟨v, hr.symm.ofNode_eq_ok (hr.distinctNames hd) hv⟩
  rw [Reader.run, Reader.run, Document.read_eq_of_spelledAs h, Document.read_eq_of_spelledAs h']
  exact congrArg (· >>= _) hroot

end

end ContentBlocking.Json
