import ContentBlocking.Proofs.Json.Records
import ContentBlocking.Rule

/-!
# Reading rules

A rule does not change when its text is rewritten (`Rule.stable_reader`), and a rule that was
written is read back as it was (`Rule.reader_toJson`).
-/

namespace ContentBlocking

open Json

/-! ### Rewritten rules -/

theorem Action.slots_lawful : Slots.Lawful Action.slots where
  each := by
    simp only [Action.slots, List.forall_mem_cons, List.not_mem_nil, false_imp_iff, implies_true,
      and_true]
    exact ⟨Slot.lawful_of (Reader.stable_variant _) fun _ _ => rfl,
      Slot.lawful_of (Reader.stable_optional Reader.stable_string) fun _ _ => rfl⟩
  apart := by
    refine List.pairwise_pair.2 ?_
    exact Slot.apart_of (fun _ _ => rfl) (fun _ _ => rfl) fun _ _ _ => rfl

theorem Action.stable_reader : Reader.Stable Action.reader :=
  (Reader.stable_fields Action.slots_lawful _).bind _

theorem stable_optionalStrings : Reader.Stable optionalStrings :=
  Reader.stable_optional (Reader.stable_list Reader.stable_string)

theorem Trigger.slots_lawful : Slots.Lawful Trigger.slots where
  each := by
    simp only [Trigger.slots, List.forall_mem_cons, List.not_mem_nil, false_imp_iff, implies_true,
      and_true]
    refine ⟨Slot.lawful_of Reader.stable_string ?_,
      Slot.lawful_of (Reader.stable_optional Reader.stable_bool) ?_,
      Slot.lawful_of stable_optionalStrings ?_, Slot.lawful_of stable_optionalStrings ?_,
      Slot.lawful_of stable_optionalStrings ?_, Slot.lawful_of stable_optionalStrings ?_,
      Slot.lawful_of stable_optionalStrings ?_, Slot.lawful_of stable_optionalStrings ?_⟩ <;>
    exact fun _ _ => rfl
  apart := by
    simp only [Trigger.slots, List.pairwise_cons, List.forall_mem_cons, List.not_mem_nil,
      false_imp_iff, implies_true, List.Pairwise.nil, and_true]
    refine ⟨⟨?_, ?_, ?_, ?_, ?_, ?_, ?_⟩, ⟨?_, ?_, ?_, ?_, ?_, ?_⟩, ⟨?_, ?_, ?_, ?_, ?_⟩,
      ⟨?_, ?_, ?_, ?_⟩, ⟨?_, ?_, ?_⟩, ⟨?_, ?_⟩, ?_⟩ <;>
    exact Slot.apart_of (fun _ _ => rfl) (fun _ _ => rfl) fun _ _ _ => rfl

theorem Trigger.stable_reader : Reader.Stable Trigger.reader :=
  (Reader.stable_fields Trigger.slots_lawful _).bind _

theorem Rule.slots_lawful : Slots.Lawful Rule.slots where
  each := by
    simp only [Rule.slots, List.forall_mem_cons, List.not_mem_nil, false_imp_iff, implies_true,
      and_true]
    exact ⟨Slot.lawful_of Trigger.stable_reader fun _ _ => rfl,
      Slot.lawful_of Action.stable_reader fun _ _ => rfl⟩
  apart := by
    refine List.pairwise_pair.2 ?_
    exact Slot.apart_of (fun _ _ => rfl) (fun _ _ => rfl) fun _ _ _ => rfl

/-- **A rule does not change when its text is rewritten.** -/
theorem Rule.stable_reader : Reader.Stable Rule.reader :=
  (Reader.stable_fields Rule.slots_lawful _).bind _

/-! ### Written rules -/

theorem string_ofValue (s : String) : Reader.string (Node.ofValue (.string s)) = .ok s :=
  Quoted.text_ofString s

theorem list_strings (ss : List String) :
    Reader.list Reader.string (Node.ofValue (.strings ss)) = .ok ss := by
  rw [Value.strings, Node.ofValue, Node.ofItems_eq_map, Reader.list_array_eq_ok, List.map_map]
  refine ⟨?_, rfl⟩
  have h := mapM_map_of_ok (g := Node.ofValue ∘ .string) (h := id)
    fun (s : String) (_ : s ∈ ss) => string_ofValue s
  rwa [List.map_id] at h

theorem ActionKind.ofName?_name (k : ActionKind) : ActionKind.ofName? k.name = some k := by
  cases k <;> decide

theorem variant_name (k : ActionKind) :
    Reader.variant ActionKind.ofName? (Node.ofValue (.string k.name)) = .ok k := by
  rw [Node.ofValue, Reader.variant, Quoted.text_ofString, ok_bind, ActionKind.ofName?_name]
  rfl

section Members

variable {σ α : Type} {slots : List (Slot σ)} {name : String}

/-- A member with a slot that is not filled yet. -/
theorem fillMembers_slot {get : σ → Option α} {set : σ → α → σ} {read : Reader α} {s : σ} {a : α}
    {v : Value} {rest : List (String × Value)}
    (hslot : slots.find? (·.name == name) = some (.of name get set read)) (hget : get s = none)
    (hread : read (Node.ofValue v) = .ok a) :
    fillMembers slots s (Node.ofMembers ((name, v) :: rest)) =
      fillMembers slots (set s a) (Node.ofMembers rest) := by
  rw [Node.ofMembers, fillMembers, Quoted.text_ofString, ok_bind, hslot]
  simp [Slot.of, hget, hread]

/-- An optional member with a slot that is not filled yet; `s` is the record for each value of the
slot. -/
theorem fillMembers_optionalMember {get : σ → Option (Option α)} {set : σ → Option α → σ}
    {read : Reader α} {s : Option (Option α) → σ} {toJson : α → Value} (o : Option α)
    {rest : List (String × Value)}
    (hslot : slots.find? (·.name == name) = some (.of name get set (Reader.optional read)))
    (hget : get (s none) = none) (hset : ∀ a, set (s none) a = s (some a))
    (hread : ∀ a, Reader.optional read (Node.ofValue (toJson a)) = .ok (some a)) :
    fillMembers slots (s none) (Node.ofMembers (optionalMember name toJson o ++ rest)) =
      fillMembers slots (s (o.map some)) (Node.ofMembers rest) := by
  cases o with
  | none => rfl
  | some a =>
    rw [optionalMember, List.singleton_append, fillMembers_slot hslot hget (hread a), hset]
    rfl

end Members

theorem optional_string (s : String) :
    Reader.optional Reader.string (Node.ofValue (.string s)) = .ok (some s) := by
  rw [Reader.optional_of_ne_null (by simp [Node.ofValue]), string_ofValue]
  rfl

theorem optional_bool (b : Bool) :
    Reader.optional Reader.bool (Node.ofValue (.bool b)) = .ok (some b) := rfl

theorem optionalStrings_strings (ss : List String) :
    optionalStrings (Node.ofValue (.strings ss)) = .ok (some ss) := by
  rw [optionalStrings, Reader.optional_of_ne_null (by simp [Value.strings, Node.ofValue]),
    list_strings]
  rfl

theorem Action.reader_toJson (a : Action) : Action.reader (Node.ofValue a.toJson) = .ok a := by
  obtain ⟨kind, selector⟩ := a
  have hfill : fillMembers Action.slots ⟨none, none⟩
      (Node.ofMembers (("type", .string kind.name) :: optionalMember "selector" .string selector)) =
      .ok ⟨some kind, selector.map some⟩ := by
    rw [fillMembers_slot (a := kind) rfl rfl (variant_name kind),
      ← List.append_nil (optionalMember _ _ _)]
    exact fillMembers_optionalMember (s := fun v => Draft.mk (some kind) v) selector rfl rfl
      (fun _ => rfl) optional_string
  rw [Action.reader, Action.toJson, Node.ofValue,
    Reader.fields_object_eq_ok.2 ⟨hfill, rfl⟩, ok_bind]
  cases selector <;> rfl

theorem Trigger.reader_toJson (t : Trigger) : Trigger.reader (Node.ofValue t.toJson) = .ok t := by
  obtain ⟨filter, sensitive, ifDomain, unlessDomain, resourceType, loadType, ifTop, unlessTop⟩ := t
  rw [Trigger.reader, Trigger.toJson, Node.ofValue]
  have hfill : fillMembers Trigger.slots ⟨none, none, none, none, none, none, none, none⟩
      (Node.ofMembers (("url-filter", .string filter) ::
        (optionalMember "url-filter-is-case-sensitive" .bool sensitive ++
          (optionalMember "if-domain" .strings ifDomain ++
            (optionalMember "unless-domain" .strings unlessDomain ++
              (optionalMember "resource-type" .strings resourceType ++
                (optionalMember "load-type" .strings loadType ++
                  (optionalMember "if-top-url" .strings ifTop ++
                    optionalMember "unless-top-url" .strings unlessTop)))))))) =
      .ok ⟨some filter, sensitive.map some, ifDomain.map some, unlessDomain.map some,
        resourceType.map some, loadType.map some, ifTop.map some, unlessTop.map some⟩ := by
    -- the members fill their slots one after the other; a missing one leaves its slot empty
    rw [fillMembers_slot (a := filter) rfl rfl (string_ofValue filter)]
    refine (fillMembers_optionalMember
      (s := fun v => Draft.mk (some filter) v none none none none none none)
      sensitive rfl rfl (fun _ => rfl) optional_bool).trans ?_
    refine (fillMembers_optionalMember
      (s := fun v => Draft.mk (some filter) _ v none none none none none)
      ifDomain rfl rfl (fun _ => rfl) optionalStrings_strings).trans ?_
    refine (fillMembers_optionalMember
      (s := fun v => Draft.mk (some filter) _ _ v none none none none)
      unlessDomain rfl rfl (fun _ => rfl) optionalStrings_strings).trans ?_
    refine (fillMembers_optionalMember
      (s := fun v => Draft.mk (some filter) _ _ _ v none none none)
      resourceType rfl rfl (fun _ => rfl) optionalStrings_strings).trans ?_
    refine (fillMembers_optionalMember
      (s := fun v => Draft.mk (some filter) _ _ _ _ v none none)
      loadType rfl rfl (fun _ => rfl) optionalStrings_strings).trans ?_
    refine (fillMembers_optionalMember
      (s := fun v => Draft.mk (some filter) _ _ _ _ _ v none)
      ifTop rfl rfl (fun _ => rfl) optionalStrings_strings).trans ?_
    rw [← List.append_nil (optionalMember _ _ unlessTop)]
    exact fillMembers_optionalMember
      (s := fun v => Draft.mk (some filter) _ _ _ _ _ _ v)
      unlessTop rfl rfl (fun _ => rfl) optionalStrings_strings
  rw [Reader.fields_object_eq_ok.2 ⟨hfill, rfl⟩, ok_bind]
  simp only [Json.required, ok_bind]
  have hjoin : ∀ {α : Type} (o : Option α), (o.map some).join = o := by
    intro α o
    cases o <;> rfl
  simp only [hjoin]
  rfl

/-- **A rule that was written is read back as it was.** -/
theorem Rule.reader_toJson (r : Rule) : Rule.reader (Node.ofValue r.toJson) = .ok r := by
  have hfill : fillMembers Rule.slots ⟨none, none⟩
      (Node.ofMembers [("trigger", r.trigger.toJson), ("action", r.action.toJson)]) =
      .ok ⟨some r.trigger, some r.action⟩ := by
    rw [fillMembers_slot (a := r.trigger) rfl rfl (Trigger.reader_toJson r.trigger),
      fillMembers_slot (a := r.action) rfl rfl (Action.reader_toJson r.action)]
    rfl
  rw [Rule.reader, Rule.toJson, Node.ofValue, Reader.fields_object_eq_ok.2 ⟨hfill, rfl⟩]
  rfl

end ContentBlocking
