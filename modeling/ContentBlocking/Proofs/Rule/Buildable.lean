import ContentBlocking.Proofs.Json.Unread
import ContentBlocking.Proofs.Rule.Synthesis

/-!
# Valid lists that can be built

A rule list is read twice.  `RuleList.ofText` reads the rules and skips members that it does not
know, and `RuleList.synthesize` reads values of any type and keeps all members.  So a valid list may
still be one that nothing can be synthesized from: it may have members that no rule reads
(`RuleList.unread`) and that are nested too deep, or have a numeral out of range or half of a
surrogate pair in them.  That is the only way, whatever rules are added
(`RuleList.synthesize_succeedsIff`).
-/

namespace ContentBlocking

open Json

/-! ### Members that no rule reads -/

namespace Rule

/-- The names of the parts of a rule. -/
def partNames : List String := slots.map Slot.name

/-- The names of the members of a part of a rule. -/
def memberNames (part : String) : List String :=
  if part = "trigger" then Trigger.slots.map Slot.name else Action.slots.map Slot.name

/-- The values in a rule of a list that are skipped, each with the number of arrays and objects
around it. -/
def unread (rule : Node) : List (ℕ × Node) :=
  (rule.unplaced partNames).map (2, ·) ++
    (rule.placed partNames).flatMap fun m => (m.2.unplaced (memberNames m.1)).map (3, ·)

end Rule

namespace RuleList

/-- The values in a list that are skipped, each with the number of arrays and objects around it. -/
def unread (text : String) : List (ℕ × Node) :=
  (Document.read text).root.items.flatMap Rule.unread

/-- What is skipped of a list is within the limits of the reader of values. -/
def Buildable (text : String) : Prop :=
  ∀ v ∈ unread text, v.2.Within (maxDepth - v.1)

end RuleList

/-! ### What the readers of rules leave -/

section Leaves

variable {depth : ℕ}

theorem leaves_optionalStrings : Reader.Leaves optionalStrings (depth + 1) fun _ => True :=
  Reader.leaves_optional
    ((Reader.leaves_list Reader.leaves_string).congr fun _ => by simp) trivial

theorem Action.slotsLeave : Reader.SlotsLeave Action.slots (depth + 1) fun _ _ => True := by
  simp only [Reader.SlotsLeave, Action.slots, List.forall_mem_cons, List.not_mem_nil,
    false_imp_iff, implies_true, and_true]
  exact ⟨Reader.leaves_slot (Reader.leaves_variant _),
    Reader.leaves_slot (Reader.leaves_optional Reader.leaves_string trivial)⟩

theorem Trigger.slotsLeave : Reader.SlotsLeave Trigger.slots (depth + 1) fun _ _ => True := by
  simp only [Reader.SlotsLeave, Trigger.slots, List.forall_mem_cons, List.not_mem_nil,
    false_imp_iff, implies_true, and_true]
  exact ⟨Reader.leaves_slot Reader.leaves_string,
    Reader.leaves_slot (Reader.leaves_optional Reader.leaves_bool trivial),
    Reader.leaves_slot leaves_optionalStrings, Reader.leaves_slot leaves_optionalStrings,
    Reader.leaves_slot leaves_optionalStrings, Reader.leaves_slot leaves_optionalStrings,
    Reader.leaves_slot leaves_optionalStrings, Reader.leaves_slot leaves_optionalStrings⟩

/-- A reader of a part of a rule leaves the members that the part does not have. -/
theorem Reader.Leaves.of_part {σ α : Type} {slots : List (Slot σ)}
    (h : Reader.SlotsLeave slots (depth + 1) fun _ _ => True) (blank : σ)
    (f : σ → Except Error α) :
    Reader.Leaves (fun node => Reader.fields slots blank node >>= f) (depth + 2) fun node =>
      ∀ v ∈ node.unplaced (slots.map Slot.name), v.Within (depth + 1) :=
  ((Reader.leaves_fields h blank).congr fun _ => and_iff_left fun _ _ => trivial).bind f

theorem Rule.slotsLeave : Reader.SlotsLeave Rule.slots (depth + 2) fun part node =>
    ∀ v ∈ node.unplaced (memberNames part), v.Within (depth + 1) := by
  simp only [Reader.SlotsLeave, Rule.slots, List.forall_mem_cons, List.not_mem_nil,
    false_imp_iff, implies_true, and_true]
  exact ⟨Reader.leaves_slot (Reader.Leaves.of_part Trigger.slotsLeave _ _),
    Reader.leaves_slot (Reader.Leaves.of_part Action.slotsLeave _ _)⟩

theorem Rule.leaves_reader : Reader.Leaves Rule.reader (depth + 3) fun node =>
    (∀ v ∈ node.unplaced partNames, v.Within (depth + 2)) ∧
      ∀ m ∈ node.placed partNames, ∀ v ∈ m.2.unplaced (memberNames m.1), v.Within (depth + 1) :=
  (Reader.leaves_fields Rule.slotsLeave _).bind _

end Leaves

namespace RuleList

variable {text : String} {rules : List Rule}

theorem buildable_iff : Buildable text ↔ ∀ rule ∈ (Document.read text).root.items,
    (∀ v ∈ rule.unplaced Rule.partNames, v.Within (maxDepth - 2)) ∧
      ∀ m ∈ rule.placed Rule.partNames, ∀ v ∈ m.2.unplaced (Rule.memberNames m.1),
        v.Within (maxDepth - 3) := by
  simp only [Buildable, unread, Rule.unread, List.forall_mem_flatMap, List.forall_mem_append,
    List.forall_mem_map]

/-- A list that can be read obeys the grammar, and what it skips decides whether it is within the
limits. -/
theorem within_iff_buildable (h : read text = .ok rules) :
    (Document.read text).root.SpelledAs text.toList ∧
      ((Document.read text).root.Within maxDepth ↔ Buildable text) := by
  obtain ⟨hlist, htrailing⟩ := Reader.run_eq_ok.1 h
  obtain ⟨hskip, hwithin⟩ := Reader.leaves_list (@Rule.leaves_reader 123) hlist
  exact ⟨Document.spelledAs_of_read hskip htrailing, hwithin.trans buildable_iff.symm⟩

/-- **A valid list can be built exactly if what it skips is within the limits**, whatever rules are
added to it. -/
theorem synthesize_succeedsIff (h : ofText text = .ok rules) (allowRule : Option Value)
    (cosmetic : Bool) :
    SucceedsIff (Buildable text) (synthesize text allowRule cosmetic) := by
  have hread := (ofText_eq_ok_iff.1 h).1
  obtain ⟨hspelled, hbuildable⟩ := within_iff_buildable hread
  obtain ⟨hlist, htrailing⟩ := Reader.run_eq_ok.1 hread
  have hvalue := (hspelled.ofNode_succeedsIff maxDepth).congr hbuildable
  cases hroot : (Document.read text).root <;> rw [hroot] at hlist <;>
    simp only [Reader.list, reduceCtorEq] at hlist
  next items close =>
  rw [hroot] at hvalue
  refine ⟨fun hp => ?_, fun hp => ?_⟩
  · obtain ⟨v, hv⟩ := hvalue.succeeds hp
    obtain ⟨d, vs, -, -, rfl⟩ := Value.ofNode_array hv
    have hany : Reader.any.run text = .ok (.array vs) :=
      Reader.run_eq_ok.2 ⟨by rw [hroot]; exact hv, htrailing⟩
    exact ⟨_, synthesize_of_items (readItems_eq_ok_iff.2 hany) allowRule cosmetic⟩
  · have hitems : readItems.run text = .error .malformed := by
      rw [Reader.run, hroot, readItems, Reader.any, hvalue.fails hp]
      rfl
    rw [synthesize, hitems]
    rfl

end RuleList

end ContentBlocking
