import ContentBlocking.Proofs.Disk.Commute
import ContentBlocking.Proofs.Rule.Store

/-!
# The stored form of a rule list

A valid list is stored in its normal form, which says the rules and nothing of how the source
spelled them.  The form is lossless: it is a valid list of the same rules, it is its own normal
form, and lists with different rules have different ones (`RuleStore.stored_normalForm`).  So a
stored list need not be validated when it is looked up, and compiling what is stored changes nothing
on the disk.
-/

namespace ContentBlocking

variable {source : String} {rules : List Rule}

namespace RuleList

/-- The normal form of a valid list is a valid list of the same rules. -/
theorem ofText_text (h : ofText source = .ok rules) : ofText (text rules) = .ok rules :=
  ofText_eq_ok_iff.2 ⟨read_text rules, (ofText_eq_ok_iff.1 h).2⟩

theorem text_injective : Function.Injective text := by
  intro rules rules' h
  have hread := read_text rules
  rw [h, read_text] at hread
  exact (Except.ok.inj hread).symm

end RuleList

namespace RuleStore

variable {dir id : String} {t t' : FileTree}

/-! ### Compilations of one list -/

/-- The normal form of a source compiles as the source does. -/
theorem compileInto_text (h : RuleList.ofText source = .ok rules) (dir id : String)
    (t : FileTree) : compileInto dir id (RuleList.text rules) t = compileInto dir id source t := by
  rw [compileInto_eq h, compileInto_eq (RuleList.ofText_text h)]

/-- A list that is compiled again is written again as it is. -/
theorem compileInto_again (h : compileInto dir id source t = (.ok rules, t')) :
    compileInto dir id source t' = (.ok rules, t') := by
  obtain ⟨hvalid, hwrite⟩ := compileInto_eq_ok_iff.1 h
  exact compileInto_eq_ok_iff.2 ⟨hvalid, FileTree.replaceTextBelow_again hwrite⟩

/-- The file of a list that was compiled holds its normal form. -/
theorem readText_compileInto (h : compileInto dir id source t = (.ok rules, t')) :
    t'.readText (filePath dir id) = .ok (RuleList.text rules) := by
  obtain ⟨-, hwrite⟩ := compileInto_eq_ok_iff.1 h
  obtain ⟨t₀, -, hreplace⟩ := FileTree.replaceTextBelow_eq_ok_iff.1 hwrite
  exact FileTree.readText_replaceText hreplace

/-- Only the disk can fail a valid list. -/
theorem compileInto_of_valid (h : RuleList.ofText source = .ok rules) (dir id : String)
    (t : FileTree) : (∃ e, (compileInto dir id source t).1 = .error (.io id e)) ∨
      ∃ t', compileInto dir id source t = (.ok rules, t') := by
  rw [compileInto_eq h]
  rcases t.replaceTextBelow dir (besidePath dir id) (filePath dir id) (RuleList.text rules) with
    ⟨r, t₁⟩
  cases r with
  | error e => exact .inl ⟨e, rfl⟩
  | ok u => exact .inr ⟨t₁, rfl⟩

theorem lookupIn_of_text (h : t.readText (filePath dir id) = .ok (RuleList.text rules)) :
    lookupIn dir id t = .ok rules :=
  lookupIn_eq_ok_iff.2 ⟨_, h, RuleList.read_text rules⟩

/-! ### The normal form -/

/-- **Lists are stored in a lossless normal form.**  The normal form of a valid list is a valid list
of the same rules, and so its own normal form; compiling it does what compiling the source does.
Unless the disk fails, what a compilation stores is the normal form, and compiling that once more
leaves the disk as it is.  Where the normal form is stored the rules are looked up, and two valid
sources have one normal form exactly if they have the same rules. -/
theorem stored_normalForm (h : RuleList.ofText source = .ok rules) :
    RuleList.ofText (RuleList.text rules) = .ok rules ∧
    (∀ dir id t, compileInto dir id (RuleList.text rules) t = compileInto dir id source t ∧
      ((∃ e, (compileInto dir id source t).1 = .error (.io id e)) ∨
        ∃ t', compileInto dir id source t = (.ok rules, t') ∧
          t'.readText (filePath dir id) = .ok (RuleList.text rules) ∧
          compileInto dir id (RuleList.text rules) t' = (.ok rules, t'))) ∧
    (∀ dir id t, t.readText (filePath dir id) = .ok (RuleList.text rules) →
      lookupIn dir id t = .ok rules) ∧
    ∀ source' rules', RuleList.ofText source' = .ok rules' →
      (RuleList.text rules = RuleList.text rules' ↔ rules = rules') := by
  refine ⟨RuleList.ofText_text h, fun dir id t => ⟨compileInto_text h dir id t, ?_⟩,
    fun dir id t => lookupIn_of_text, fun _ _ _ => RuleList.text_injective.eq_iff⟩
  refine (compileInto_of_valid h dir id t).imp_right fun ⟨t', hcompile⟩ => ?_
  refine ⟨t', hcompile, readText_compileInto hcompile, ?_⟩
  rw [compileInto_text h]
  exact compileInto_again hcompile

/-- A rule written with arrays for its trigger and for the rule itself, and with an object for the
kind of its action. -/
def positional : String :=
  "[[[\"a\\u0064s\", null, [\"x.com\"]], \x7b\"type\": \x7b\"block\": null\x7d\x7d]]"

/-- The same rule written with members that are null, out of order or not known of rules. -/
def annotatedMembers : String :=
  "[\x7b\"note\": 1, \"action\": \x7b\"selector\": null, \"type\": \"block\"\x7d, " ++
    "\"trigger\": \x7b\"if-domain\": [\"x.com\"], \"unless-domain\": null, " ++
    "\"url-filter\": \"ads\"\x7d\x7d]"

/-- The rule that blocks advertisements on one domain. -/
def blocksAds : Rule :=
  ⟨⟨"ads", none, some ["x.com"], none, none, none, none, none⟩, ⟨.block, none⟩⟩

/-- The normal form of the rule. -/
def blocksAdsText : String :=
  "[\x7b\"trigger\":\x7b\"url-filter\":\"ads\",\"if-domain\":[\"x.com\"]\x7d," ++
    "\"action\":\x7b\"type\":\"block\"\x7d\x7d]"

/-- Both ways of writing the rule have one normal form, which is stored on an empty disk and is not
changed by compiling it again. -/
theorem stored_normalForm_of_positional :
    RuleList.ofText positional = .ok [blocksAds] ∧
      RuleList.ofText annotatedMembers = .ok [blocksAds] ∧
      RuleList.text [blocksAds] = blocksAdsText ∧
      ∃ t, compileInto "rules" "ads" positional (.empty [] ⟨0⟩) = (.ok [blocksAds], t) ∧
        t.readText "rules/ads.json" = .ok blocksAdsText ∧
        compileInto "rules" "ads" blocksAdsText t = (.ok [blocksAds], t) := by
  have hpositional : RuleList.ofText positional = .ok [blocksAds] := by decide +kernel
  have htext : RuleList.text [blocksAds] = blocksAdsText := by decide +kernel
  obtain ⟨-, hcompile, -, -⟩ := stored_normalForm hpositional
  refine ⟨hpositional, by decide +kernel, htext, ?_⟩
  have hpath : filePath "rules" "ads" = "rules/ads.json" := by decide +kernel
  rw [← htext, ← hpath]
  rcases (hcompile "rules" "ads" (.empty [] ⟨0⟩)).2 with ⟨e, he⟩ | hstored
  · have hok :
        (compileInto "rules" "ads" positional (.empty [] ⟨0⟩)).1.toOption.isSome = true := by
      decide +kernel
    rw [he] at hok
    cases hok
  · exact hstored

end RuleStore

end ContentBlocking
