import ContentBlocking.Proofs.AllowList.Domains
import ContentBlocking.Proofs.Rule.Synthesis

/-!
# The verdict on a synthesized list

What is synthesized from a bundled list gets the verdict of the bundled list itself: it is valid
with the same rules before those that were added, or the first rule with a problem is the same one
and has the same problem (`RuleList.verdict_synthesize`).  The added rules never have a problem and
come last, so they can neither bring one in nor hide one.
-/

namespace ContentBlocking.RuleList

open Json (Value)

/-! ### The first problem -/

theorem firstProblem?_append (index : Nat) (rules more : List Rule) :
    firstProblem? index (rules ++ more) =
      (firstProblem? index rules).or (firstProblem? (index + rules.length) more) := by
  induction rules generalizing index with
  | nil => simp [firstProblem?]
  | cons r rules ih =>
    rw [List.cons_append, firstProblem?, firstProblem?, ih, Option.or_assoc, List.length_cons,
      Nat.add_assoc, Nat.add_comm 1]

theorem firstProblem?_append_of_valid {index : Nat} {rules more : List Rule}
    (h : ∀ r ∈ more, problem? 0 r = none) :
    firstProblem? index (rules ++ more) = firstProblem? index rules := by
  rw [firstProblem?_append, firstProblem?_eq_none_iff.2 h, Option.or_none]

theorem ofText_of_read {text : String} {rules : List Rule} (h : read text = .ok rules) :
    ofText text = match firstProblem? 0 rules with
      | some e => .error e
      | none => .ok rules := by
  cases hproblem : firstProblem? 0 rules <;> simp only [ofText, h, hproblem]

/-- A list whose problem is not its JSON was read. -/
theorem read_of_ofText_error {text : String} {e : RuleError} (h : ofText text = .error e)
    (he : ∀ cause, e ≠ .json cause) :
    ∃ rules, read text = .ok rules ∧ firstProblem? 0 rules = some e := by
  cases hread : read text with
  | error cause =>
    rw [ofText, hread] at h
    exact absurd (Except.error.inj h).symm (he cause)
  | ok rules =>
    rw [ofText_of_read hread] at h
    cases hproblem : firstProblem? 0 rules with
    | none =>
      rw [hproblem] at h
      cases h
    | some e' =>
      rw [hproblem] at h
      cases h
      exact ⟨rules, rfl, hproblem⟩

/-! ### The added rules -/

/-- The added rules, told by whether there are domains. -/
theorem addedRules_eq (d : AllowList.Domains) (cosmetic : Bool) :
    addedRules d cosmetic =
      (if d.toList = [] then [] else [exemption (d.toList.map AllowList.Domains.wildcard)]) ++
        if cosmetic then [topLevelRule] else [] := by
  rw [addedRules]
  congr 1
  cases hrule : d.rule? with
  | none =>
    rw [if_pos (AllowList.Domains.rule?_eq_none_iff.1 hrule)]
    rfl
  | some v =>
    have hne : d.toList ≠ [] := fun hnil => by
      rw [AllowList.Domains.rule?_eq_none_iff.2 hnil] at hrule
      cases hrule
    rw [if_neg hne]
    rfl

/-- A problem of a bundled list other than its JSON is that of the synthesized list. -/
theorem ofText_synthesize_error {bundled : String} {items : List Value} {e : RuleError}
    (hitems : readItems.run bundled = .ok items) (herror : ofText bundled = .error e)
    (he : ∀ cause, e ≠ .json cause) (d : AllowList.Domains) (cosmetic : Bool) :
    ofText (Value.array (items ++ additions d.rule? cosmetic)).compact = .error e := by
  obtain ⟨rules, hread, hproblem⟩ := read_of_ofText_error herror he
  rw [ofText_of_read (read_synthesized hitems hread (reader_additions d cosmetic)),
    firstProblem?_append_of_valid fun r hr => problem?_of_mem_addedRules hr, hproblem]

/-- **A synthesized list gets the verdict of its bundled list.**  For any text that can be read as
an array and any set of domains, the bundled rules are followed by the rule of the domains in the
order of their code points, unless there are none, and for cosmetic lists by the rule for pages; and
a filter, a selector or domains that are wrong in the bundled list are wrong at the same place. -/
theorem verdict_synthesize {bundled : String} {items : List Value}
    (hitems : readItems.run bundled = .ok items) (d : AllowList.Domains) (cosmetic : Bool) :
    ∃ source domains, synthesize bundled d.rule? cosmetic = .ok source ∧
      domains.Pairwise (· < ·) ∧ (∀ domain, domain ∈ domains ↔ d.contains domain = true) ∧
      (∀ rules, ofText bundled = .ok rules → ofText source = .ok (rules ++
        ((if domains = [] then [] else [exemption (domains.map fun domain => "*" ++ domain)]) ++
          if cosmetic then [topLevelRule] else []))) ∧
      ∀ e, ofText bundled = .error e → (∀ cause, e ≠ .json cause) → ofText source = .error e := by
  have hsource := synthesize_of_items hitems d.rule? cosmetic
  refine ⟨_, d.toList, hsource, d.pairwise_toList, fun _ => AllowList.Domains.mem_toList_iff, ?_,
    ?_⟩
  · intro rules hrules
    obtain ⟨source, hsource', hvalid⟩ := ofText_synthesize hitems hrules d cosmetic
    obtain rfl := Except.ok.inj (hsource.symm.trans hsource')
    rw [addedRules_eq] at hvalid
    exact hvalid
  · intro e herror he
    exact ofText_synthesize_error hitems herror he d cosmetic

/-- A bundled list of one rule, which has a member that is not known of rules. -/
def annotated : String :=
  "[\x7b\"note\": 1, \"action\": \x7b\"type\": \"block\"\x7d, " ++
    "\"trigger\": \x7b\"url-filter\": \"ads\"\x7d\x7d]"

/-- A bundled list whose second rule hides elements but does not say which; both rules and their
parts are written as arrays, and a kind of action as an object. -/
def incomplete : String :=
  "[[[\"ads\"], [\x7b\"block\": null\x7d]], [[\"ads\"], [\"css-display-none\"]]]"

/-- A valid list stays valid behind two domains and the rule for pages, and one that is not valid
keeps its problem. -/
theorem verdict_synthesize_of_annotated_and_incomplete :
    (∃ source domains,
      synthesize annotated (AllowList.Domains.ofList ["b.org", "a.com"]).rule? true = .ok source ∧
      domains.Pairwise (· < ·) ∧
      (∀ domain, domain ∈ domains ↔
        (AllowList.Domains.ofList ["b.org", "a.com"]).contains domain = true) ∧
      ofText source = .ok
        ([⟨⟨"ads", none, none, none, none, none, none, none⟩, ⟨.block, none⟩⟩] ++
          ((if domains = [] then [] else [exemption (domains.map fun domain => "*" ++ domain)]) ++
            [topLevelRule]))) ∧
    ∃ source, synthesize incomplete (AllowList.Domains.ofList ["b.org", "a.com"]).rule? true =
      .ok source ∧ ofText source = .error (.missingSelector 1) := by
  constructor
  · obtain ⟨items, hitems⟩ : ∃ items, (readItems.run annotated).toOption = some items :=
      Option.isSome_iff_exists.1 (by decide +kernel)
    obtain ⟨source, domains, hsource, hsorted, hmem, hvalid, -⟩ :=
      verdict_synthesize (toOption_eq_some.1 hitems) (.ofList ["b.org", "a.com"]) true
    exact ⟨source, domains, hsource, hsorted, hmem, hvalid _ (by decide +kernel)⟩
  · obtain ⟨items, hitems⟩ : ∃ items, (readItems.run incomplete).toOption = some items :=
      Option.isSome_iff_exists.1 (by decide +kernel)
    obtain ⟨source, -, hsource, -, -, -, hproblem⟩ :=
      verdict_synthesize (toOption_eq_some.1 hitems) (.ofList ["b.org", "a.com"]) true
    exact ⟨source, hsource, hproblem _ (by decide +kernel) fun _ => by simp⟩

end ContentBlocking.RuleList
