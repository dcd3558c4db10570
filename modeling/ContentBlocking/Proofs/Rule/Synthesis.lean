import ContentBlocking.AllowList.Domains
import ContentBlocking.Proofs.Rule.Reading
import ContentBlocking.Rule.List

/-!
# The rules of synthesized lists

A list that was compiled is read back as it was (`RuleList.read_text`).  If the text of a bundled
list is a valid list, then so is what is synthesized from it (`RuleList.ofText_synthesize`): its
rules are those of the bundled text, then the rule of the allow-list and the rule for cosmetic
lists.
-/

namespace ContentBlocking

open Json (Value Reader Node)

namespace RuleList

/-! ### Stored lists -/

theorem stable_list : Reader.Stable (Reader.list Rule.reader) :=
  Reader.stable_list Rule.stable_reader

/-- **A list that was written is read back as it was.** -/
theorem read_text (rules : List Rule) : read (text rules) = .ok rules := by
  rw [read, text, Reader.run_compact, toJson, Node.ofValue, Json.Node.ofItems_eq_map,
    Reader.list_array_eq_ok, List.map_map]
  refine ⟨?_, rfl⟩
  have h := mapM_map_of_ok (g := Node.ofValue ∘ Rule.toJson) (h := id)
    fun r (_ : r ∈ rules) => Rule.reader_toJson r
  rwa [List.map_id] at h

/-! ### Valid lists -/

theorem problem?_eq_none_iff {index : Nat} {r : Rule} :
    problem? index r = none ↔ problem? 0 r = none := by
  simp only [problem?]
  split_ifs <;> simp

theorem firstProblem?_eq_none_iff {index : Nat} {rules : List Rule} :
    firstProblem? index rules = none ↔ ∀ r ∈ rules, problem? 0 r = none := by
  induction rules generalizing index with
  | nil => simp [firstProblem?]
  | cons r rules ih =>
    rw [firstProblem?, Option.or_eq_none_iff, ih, problem?_eq_none_iff, List.forall_mem_cons]

theorem ofText_eq_ok_iff {text : String} {rules : List Rule} :
    ofText text = .ok rules ↔ read text = .ok rules ∧ ∀ r ∈ rules, problem? 0 r = none := by
  rw [ofText]
  cases hread : read text with
  | error e => simp
  | ok rs =>
    cases hproblem : firstProblem? 0 rs with
    | none =>
      simp only [hproblem, Except.ok.injEq]
      constructor
      · rintro rfl
        exact ⟨rfl, firstProblem?_eq_none_iff.1 hproblem⟩
      · exact And.left
    | some e =>
      simp only [hproblem, reduceCtorEq, Except.ok.injEq, false_iff, not_and]
      rintro rfl hall
      rw [firstProblem?_eq_none_iff.2 hall] at hproblem
      cases hproblem

/-! ### Synthesis -/

theorem readItems_eq_ok_iff {text : String} {items : List Value} :
    readItems.run text = .ok items ↔ Reader.any.run text = .ok (.array items) := by
  rw [Reader.run_eq_ok, Reader.run_eq_ok]
  refine and_congr_left fun _ => ?_
  cases hroot : (Json.Document.read text).root with
  | array nodes close =>
    rw [readItems, bind_eq_ok]
    constructor
    · rintro ⟨v, hv, h⟩
      cases v <;> cases h
      exact hv
    · exact fun h => ⟨.array items, h, rfl⟩
  -- any other root is read as a value of its own kind
  | object members close =>
    constructor
    · intro h
      cases h
    · intro h
      obtain ⟨d, ms, -, -, hms⟩ := Value.ofNode_object h
      cases hms
  | number n =>
    constructor
    · intro h
      cases h
    · intro h
      obtain ⟨m, -, hm⟩ := map_eq_ok.1 h
      cases hm
  | string q =>
    constructor
    · intro h
      cases h
    · intro h
      obtain ⟨s, -, hs⟩ := map_eq_ok.1 h
      cases hs
  | _ => constructor <;> (intro h; cases h)

/-- The values after those of the bundled text. -/
def additions (allowRule : Option Value) (cosmetic : Bool) : List Value :=
  allowRule.toList ++ if cosmetic then [preventTopLevelBlocks] else []

theorem synthesize_of_items {bundled : String} {items : List Value}
    (h : readItems.run bundled = .ok items) (allowRule : Option Value) (cosmetic : Bool) :
    synthesize bundled allowRule cosmetic =
      .ok (Value.array (items ++ additions allowRule cosmetic)).compact := by
  rw [synthesize, h, additions, ← List.append_assoc]
  rfl

/-- The rules of a synthesized list are those of the bundled text and those that were added. -/
theorem read_synthesized {bundled : String} {items added : List Value} {rules more : List Rule}
    (hitems : readItems.run bundled = .ok items) (hrules : read bundled = .ok rules)
    (hadded : (added.map Node.ofValue).mapM Rule.reader = .ok more) :
    read (Value.array (items ++ added)).compact = .ok (rules ++ more) := by
  have hbundled := stable_list.run_compact (readItems_eq_ok_iff.1 hitems) hrules
  rw [Reader.run_compact, Node.ofValue, Reader.list_array_eq_ok] at hbundled
  rw [read, Reader.run_compact, Node.ofValue, Reader.list_array_eq_ok,
    Json.Node.ofItems_eq_map, List.map_append, ← Json.Node.ofItems_eq_map]
  exact ⟨mapM_append_of_ok hbundled.1 hadded, rfl⟩

/-! ### The rules that are added -/

/-- The rule that cosmetic lists end with. -/
def topLevelRule : Rule :=
  { trigger :=
      { urlFilter := ".*", urlFilterIsCaseSensitive := none, ifDomain := none, unlessDomain := none
        resourceType := some ["document"], loadType := some ["first-party"], ifTopUrl := none
        unlessTopUrl := none }
    action := ⟨.ignorePreviousRules, none⟩ }

/-- The rule of an allow-list with some domains. -/
def exemption (domains : List String) : Rule :=
  { trigger :=
      { urlFilter := ".*", urlFilterIsCaseSensitive := none, ifDomain := some domains
        unlessDomain := none, resourceType := none, loadType := none, ifTopUrl := none
        unlessTopUrl := none }
    action := ⟨.ignorePreviousRules, none⟩ }

theorem reader_ignoring {members : List (String × Value)} {t : Trigger}
    (h : Trigger.reader (Node.ofValue (.object members)) = .ok t) :
    Rule.reader (Node.ofValue (.object [
      ("action", .object [("type", .string "ignore-previous-rules")]),
      ("trigger", .object members)])) = .ok ⟨t, ⟨.ignorePreviousRules, none⟩⟩ := by
  have haction := Action.reader_toJson ⟨.ignorePreviousRules, none⟩
  have hfill : Json.fillMembers Rule.slots ⟨none, none⟩ (Json.Node.ofMembers [
      ("action", .object [("type", .string "ignore-previous-rules")]),
      ("trigger", .object members)]) = .ok ⟨some t, some ⟨.ignorePreviousRules, none⟩⟩ := by
    rw [fillMembers_slot (a := ⟨.ignorePreviousRules, none⟩) rfl rfl haction,
      fillMembers_slot (a := t) rfl rfl h]
    rfl
  rw [Rule.reader, Node.ofValue, Reader.fields_object_eq_ok.2 ⟨hfill, rfl⟩]
  rfl

theorem reader_preventTopLevelBlocks :
    Rule.reader (Node.ofValue preventTopLevelBlocks) = .ok topLevelRule := by
  refine reader_ignoring ?_
  have hfill : Json.fillMembers Trigger.slots ⟨none, none, none, none, none, none, none, none⟩
      (Json.Node.ofMembers [("load-type", .strings ["first-party"]),
        ("resource-type", .strings ["document"]), ("url-filter", .string ".*")]) =
      .ok ⟨some ".*", none, none, none, some (some ["document"]), some (some ["first-party"]),
        none, none⟩ := by
    rw [fillMembers_slot (a := some ["first-party"]) rfl rfl (optionalStrings_strings _),
      fillMembers_slot (a := some ["document"]) rfl rfl (optionalStrings_strings _),
      fillMembers_slot (a := ".*") rfl rfl (string_ofValue _)]
    rfl
  rw [Trigger.reader, Node.ofValue, Reader.fields_object_eq_ok.2 ⟨hfill, rfl⟩]
  rfl

theorem reader_rule? {d : AllowList.Domains} {v : Value} (h : d.rule? = some v) :
    Rule.reader (Node.ofValue v) = .ok (exemption (d.toList.map AllowList.Domains.wildcard)) := by
  rw [AllowList.Domains.rule?] at h
  split_ifs at h
  cases h
  refine reader_ignoring ?_
  have hfill : Json.fillMembers Trigger.slots ⟨none, none, none, none, none, none, none, none⟩
      (Json.Node.ofMembers [
        ("if-domain", .strings (d.toList.map AllowList.Domains.wildcard)),
        ("url-filter", .string ".*")]) =
      .ok ⟨some ".*", none, some (some (d.toList.map AllowList.Domains.wildcard)), none, none,
        none, none, none⟩ := by
    rw [fillMembers_slot (a := some (d.toList.map AllowList.Domains.wildcard)) rfl rfl
        (optionalStrings_strings _),
      fillMembers_slot (a := ".*") rfl rfl (string_ofValue _)]
    rfl
  rw [Trigger.reader, Node.ofValue, Reader.fields_object_eq_ok.2 ⟨hfill, rfl⟩]
  rfl

set_option maxRecDepth 100000 in
theorem ofPattern?_everything : (Regex.ofPattern? ".*").isSome = true := by
  with_unfolding_all decide

/-- The rules that are added to a bundled list. -/
def addedRules (d : AllowList.Domains) (cosmetic : Bool) : List Rule :=
  (d.rule?.map fun _ => exemption (d.toList.map AllowList.Domains.wildcard)).toList ++
    if cosmetic then [topLevelRule] else []

theorem reader_additions (d : AllowList.Domains) (cosmetic : Bool) :
    ((additions d.rule? cosmetic).map Node.ofValue).mapM Rule.reader =
      .ok (addedRules d cosmetic) := by
  rw [additions, addedRules, List.map_append]
  refine mapM_append_of_ok ?_ ?_
  · cases hrule : d.rule? with
    | none => rfl
    | some v => exact mapM_cons_eq_ok.2 ⟨_, _, reader_rule? hrule, rfl, rfl⟩
  · cases cosmetic with
    | false => rfl
    | true => exact mapM_cons_eq_ok.2 ⟨_, _, reader_preventTopLevelBlocks, rfl, rfl⟩

/-- A rule for all addresses that hides no elements is valid. -/
theorem problem?_everything {r : Rule} (hfilter : r.trigger.urlFilter = ".*")
    (hkind : r.action.kind ≠ .cssDisplayNone) (hdomain : r.trigger.unlessDomain = none) :
    problem? 0 r = none := by
  have hpattern : ¬(Regex.ofPattern? r.trigger.urlFilter).isNone = true := by
    rw [hfilter, Option.isNone_iff_eq_none, ← Option.not_isSome_iff_eq_none, not_not]
    exact ofPattern?_everything
  rw [problem?, if_neg hpattern, if_neg (by simp [hkind]), if_neg (by simp [hdomain])]

theorem problem?_of_mem_addedRules {d : AllowList.Domains} {cosmetic : Bool} {r : Rule}
    (h : r ∈ addedRules d cosmetic) : problem? 0 r = none := by
  rcases List.mem_append.1 h with h | h
  · obtain ⟨v, -, rfl⟩ := Option.map_eq_some_iff.1 (Option.mem_toList.1 h)
    exact problem?_everything rfl nofun rfl
  · cases cosmetic with
    | false => cases h
    | true =>
      obtain rfl := List.mem_singleton.1 h
      exact problem?_everything rfl nofun rfl

/-- **What is synthesized from a valid list is valid.** -/
theorem ofText_synthesize {bundled : String} {items : List Value} {rules : List Rule}
    (hitems : readItems.run bundled = .ok items) (hrules : ofText bundled = .ok rules)
    (d : AllowList.Domains) (cosmetic : Bool) :
    ∃ source, synthesize bundled d.rule? cosmetic = .ok source ∧
      ofText source = .ok (rules ++ addedRules d cosmetic) := by
  obtain ⟨hread, hvalid⟩ := ofText_eq_ok_iff.1 hrules
  refine ⟨_, synthesize_of_items hitems d.rule? cosmetic, ofText_eq_ok_iff.2 ⟨?_, ?_⟩⟩
  · exact read_synthesized hitems hread (reader_additions d cosmetic)
  · intro r hr
    rcases List.mem_append.1 hr with hr | hr
    · exact hvalid r hr
    · exact problem?_of_mem_addedRules hr

end RuleList

end ContentBlocking
