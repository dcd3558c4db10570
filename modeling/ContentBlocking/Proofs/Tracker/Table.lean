import ContentBlocking.Proofs.Json.Reordering
import ContentBlocking.Proofs.Keys
import ContentBlocking.Tracker.Table
import Mathlib.Data.Finset.Card

/-!
# The table of a database

The domains of a database are put into the table one after another, in the order of their code
points, each under its spelling in small letters.  A domain whose application has no known category
is passed over.  So of the domains with one spelling the greatest that is served by a tracker
decides (`TrackerTable.Decides`), and a later one that is passed over hides nothing
(`TrackerTable.get?_foldl_iff`).  `TrackerTable.ofText_spec` says what table a text has, from the
grammar of JSON on.
-/

namespace ContentBlocking.TrackerTable

open Json (Value Reader Node sortMembers Distinct)

/-! ### Domains and their trackers -/

section Domains

variable {apps domains : List (String × Value)} {domain k : String} {t : Tracker}

/-- The domain is served by this tracker: it refers to an application of this identifier, whose
category has this raw name. -/
def Serves (apps domains : List (String × Value)) (domain : String) (t : Tracker) : Prop :=
  ∃ v app, (domain, v) ∈ domains ∧ appId v = t.id ∧ (t.id, app) ∈ apps ∧
    app.get? "cat" = some (.string t.category.raw)

/-- The tracker that a value in the place of an application refers to. -/
def tracker? (apps : List (String × Value)) (v : Value) : Option Tracker :=
  ((rawCategory? apps (appId v)).bind Category.ofRaw?).map fun category => ⟨category, appId v⟩

theorem insertDomain_eq (apps : List (String × Value)) (table : TrackerTable)
    (d : String × Value) : insertDomain apps table d = match tracker? apps d.2 with
      | some t => ⟨table.trackers.insert (Text.lower d.1) t⟩
      | none => table := by
  rw [insertDomain, tracker?]
  cases (rawCategory? apps (appId d.2)).bind Category.ofRaw? <;> rfl

theorem rawCategory?_eq_some_iff (h : Distinct apps) {id raw : String} :
    rawCategory? apps id = some raw ↔
      ∃ app, (id, app) ∈ apps ∧ app.get? "cat" = some (.string raw) := by
  have hfind : ∀ app, (apps.find? fun a => a.1 == id).map Prod.snd = some app ↔ (id, app) ∈ apps :=
    fun app => Value.get?_object_iff h
  have hstring : ∀ v : Value, v.string? = some raw ↔ v = .string raw := by
    intro v
    cases v <;> simp [Value.string?]
  simp only [rawCategory?, Option.bind_eq_bind, Option.bind_eq_some_iff, hfind, hstring]
  simp

theorem tracker?_eq_some_iff (h : Distinct apps) {v : Value} : tracker? apps v = some t ↔
    appId v = t.id ∧ ∃ app, (t.id, app) ∈ apps ∧
      app.get? "cat" = some (.string t.category.raw) := by
  obtain ⟨category, id⟩ := t
  simp only [tracker?, Option.map_eq_some_iff, Option.bind_eq_some_iff, Category.ofRaw?_eq_some_iff,
    rawCategory?_eq_some_iff h, Tracker.mk.injEq]
  constructor
  · rintro ⟨_, ⟨raw, ⟨app, hmem, hcat⟩, rfl⟩, rfl, rfl⟩
    exact ⟨rfl, app, hmem, hcat⟩
  · rintro ⟨rfl, app, hmem, hcat⟩
    exact ⟨category, ⟨_, ⟨app, hmem, hcat⟩, rfl⟩, rfl, rfl⟩

theorem serves_iff (h : Distinct apps) :
    Serves apps domains domain t ↔ ∃ v, (domain, v) ∈ domains ∧ tracker? apps v = some t := by
  simp only [tracker?_eq_some_iff h, Serves]
  constructor
  · rintro ⟨v, app, hv, hid, hmem, hcat⟩
    exact ⟨v, hv, hid, app, hmem, hcat⟩
  · rintro ⟨v, hv, hid, app, hmem, hcat⟩
    exact ⟨v, app, hv, hid, hmem, hcat⟩

/-- Of the domains with this spelling in small letters that are served by a tracker, this is the
greatest. -/
structure Decides (apps domains : List (String × Value)) (k domain : String) (t : Tracker) :
    Prop where
  lower : Text.lower domain = k
  serves : Serves apps domains domain t
  greatest : ∀ domain' t', Text.lower domain' = k → Serves apps domains domain' t' →
    domain' ≤ domain

/-! ### Filling the table -/

/-- Members in the order of their names. -/
def Ordered (ms : List (String × Value)) : Prop := ms.Pairwise fun m n => m.1 < n.1

theorem ordered_sortMembers (ms : List (String × Value)) : Ordered (sortMembers ms) :=
  Std.ExtTreeMap.ordered_keys_toList.imp fun h => compare_lt_iff_lt.1 h

theorem get?_insertDomain_of_tracker {table : TrackerTable} {d : String × Value}
    (h : tracker? apps d.2 = some t) :
    (insertDomain apps table d).get? (Text.lower d.1) = some t := by
  rw [insertDomain_eq, h]
  exact Std.ExtTreeMap.getElem?_insert_self

/-- A domain that is passed over, or has another spelling, changes nothing. -/
theorem get?_insertDomain_of_ne {table : TrackerTable} {d : String × Value}
    (h : ∀ t, tracker? apps d.2 = some t → Text.lower d.1 ≠ k) :
    (insertDomain apps table d).get? k = table.get? k := by
  rw [insertDomain_eq]
  cases htracker : tracker? apps d.2 with
  | none => rfl
  | some t =>
    rw [get?, Std.ExtTreeMap.getElem?_insert, if_neg (by simpa using h t htracker), get?]

/-- One more domain is served by the tracker that its value refers to. -/
theorem serves_concat_iff (happs : Distinct apps) {d : String × Value} :
    Serves apps (domains ++ [d]) domain t ↔
      Serves apps domains domain t ∨ domain = d.1 ∧ tracker? apps d.2 = some t := by
  rw [serves_iff happs, serves_iff happs]
  simp only [List.mem_append, List.mem_singleton, or_and_right, exists_or]
  refine or_congr_right ⟨?_, ?_⟩
  · rintro ⟨v, rfl, ht⟩
    exact ⟨rfl, ht⟩
  · rintro ⟨rfl, ht⟩
    exact ⟨d.2, rfl, ht⟩

/-- One more domain that is passed over, or has another spelling, serves nobody of this spelling. -/
theorem serves_concat_iff_of_ne (happs : Distinct apps) {d : String × Value}
    (h : ∀ t, tracker? apps d.2 = some t → Text.lower d.1 ≠ k) (hlower : Text.lower domain = k) :
    Serves apps (domains ++ [d]) domain t ↔ Serves apps domains domain t := by
  rw [serves_concat_iff happs, or_iff_left]
  rintro ⟨rfl, ht⟩
  exact h t ht hlower

theorem decides_concat_iff_of_ne (happs : Distinct apps) {d : String × Value}
    (h : ∀ t, tracker? apps d.2 = some t → Text.lower d.1 ≠ k) :
    Decides apps (domains ++ [d]) k domain t ↔ Decides apps domains k domain t := by
  constructor
  · intro hd
    exact ⟨hd.lower, (serves_concat_iff_of_ne happs h hd.lower).1 hd.serves,
      fun domain' t' hlower ht =>
        hd.greatest domain' t' hlower ((serves_concat_iff_of_ne happs h hlower).2 ht)⟩
  · intro hd
    exact ⟨hd.lower, (serves_concat_iff_of_ne happs h hd.lower).2 hd.serves,
      fun domain' t' hlower ht =>
        hd.greatest domain' t' hlower ((serves_concat_iff_of_ne happs h hlower).1 ht)⟩

/-- **The greatest domain that is served decides.** -/
theorem get?_foldl_iff (happs : Distinct apps) (hdomains : Ordered domains) :
    (domains.foldl (insertDomain apps) ⟨∅⟩).get? k = some t ↔
      ∃ domain, Decides apps domains k domain t := by
  -- from the back: the domain that was put last is the greatest
  induction domains using List.reverseRecOn generalizing t with
  | nil =>
    have hnone : ¬∃ domain, Decides apps [] k domain t := by
      rintro ⟨domain, -, ⟨v, app, hmem, -⟩, -⟩
      cases hmem
    simp [get?, hnone]
  | append_singleton domains d ih =>
    rw [Ordered, List.pairwise_append] at hdomains
    rw [List.foldl_concat]
    by_cases hinserted : ∃ t, tracker? apps d.2 = some t ∧ Text.lower d.1 = k
    · obtain ⟨t₀, ht₀, rfl⟩ := hinserted
      have hserved : Serves apps (domains ++ [d]) d.1 t₀ :=
        (serves_concat_iff happs).2 (.inr ⟨rfl, ht₀⟩)
      -- the names before are smaller
      have hlt : ∀ {domain t}, Serves apps domains domain t → domain < d.1 := by
        rintro domain t ⟨v, app, hmem, -⟩
        exact hdomains.2.2 _ hmem d (List.mem_singleton_self d)
      rw [get?_insertDomain_of_tracker ht₀, Option.some_inj]
      constructor
      · rintro rfl
        refine ⟨d.1, rfl, hserved, fun domain' t' _ ht => ?_⟩
        rcases (serves_concat_iff happs).1 ht with ht | ⟨rfl, -⟩
        · exact (hlt ht).le
        · exact le_rfl
      · rintro ⟨domain, hd⟩
        rcases (serves_concat_iff happs).1 hd.serves with ht | ⟨-, ht⟩
        · exact absurd (hlt ht) (not_lt.2 (hd.greatest d.1 t₀ rfl hserved))
        · exact Option.some_inj.1 (ht₀.symm.trans ht)
    · have hpassed : ∀ t, tracker? apps d.2 = some t → Text.lower d.1 ≠ k :=
        fun t ht hlower => hinserted ⟨t, ht, hlower⟩
      rw [get?_insertDomain_of_ne hpassed, ih hdomains.1]
      exact exists_congr fun domain => (decides_concat_iff_of_ne happs hpassed).symm

/-- The spellings in the table are those of the domains that are served. -/
theorem exists_get?_foldl_iff (happs : Distinct apps) :
    (∃ t, (domains.foldl (insertDomain apps) ⟨∅⟩).get? k = some t) ↔
      ∃ domain t, Text.lower domain = k ∧ Serves apps domains domain t := by
  induction domains using List.reverseRecOn with
  | nil =>
    simp [get?, Serves]
  | append_singleton domains d ih =>
    rw [List.foldl_concat]
    by_cases hinserted : ∃ t, tracker? apps d.2 = some t ∧ Text.lower d.1 = k
    · obtain ⟨t, ht, rfl⟩ := hinserted
      exact iff_of_true ⟨t, get?_insertDomain_of_tracker ht⟩
        ⟨d.1, t, rfl, (serves_concat_iff happs).2 (.inr ⟨rfl, ht⟩)⟩
    · have hpassed : ∀ t, tracker? apps d.2 = some t → Text.lower d.1 ≠ k :=
        fun t ht hlower => hinserted ⟨t, ht, hlower⟩
      rw [get?_insertDomain_of_ne hpassed, ih]
      exact exists_congr fun domain => exists_congr fun t => and_congr_right fun hlower =>
        (serves_concat_iff_of_ne happs hpassed hlower).symm

end Domains

/-- The number of spellings in a table. -/
theorem exists_keys (table : TrackerTable) : ∃ keys : Finset String,
    (∀ k, k ∈ keys ↔ ∃ t, table.get? k = some t) ∧ table.size = keys.card := by
  refine ⟨table.trackers.keys.toFinset, fun k => List.mem_toFinset.trans mem_keys_iff, ?_⟩
  rw [List.toFinset_card_of_nodup (nodup_keys _), Std.ExtTreeMap.length_keys, size]

/-! ### Reading a database -/

section Reading

variable {text k : String} {root : Value} {apps domains : List (String × Value)}

theorem ofText_of_error {e : Json.Error} (h : Reader.any.run text = .error e) :
    ofText text = .error (.json e) := by
  rw [ofText, h]
  rfl

theorem section?_of_object
    (h : root.get? k = some (.object apps)) : section? root k = .ok apps := by
  rw [section?, h]
  rfl

theorem section?_of_ne (h : ∀ ms, root.get? k ≠ some (.object ms)) : section? root k =
    .error (.missingSection k) := by
  rw [section?]
  cases hvalue : root.get? k with
  | none => rfl
  | some v =>
    cases v with
    | object ms => exact absurd hvalue (h ms)
    | _ => rfl

theorem ofText_of_root (h : Reader.any.run text = .ok root) : ofText text = (do
    let apps ← section? root "apps"
    let domains ← section? root "domains"
    return domains.foldl (insertDomain apps) ⟨∅⟩) := by
  rw [ofText, h]
  rfl

theorem ofText_of_no_apps (h : Reader.any.run text = .ok root)
    (happs : ∀ apps, root.get? "apps" ≠ some (.object apps)) :
    ofText text = .error (.missingSection "apps") := by
  rw [ofText_of_root h, section?_of_ne happs]
  rfl

theorem ofText_of_no_domains (h : Reader.any.run text = .ok root)
    (happs : root.get? "apps" = some (.object apps))
    (hdomains : ∀ domains, root.get? "domains" ≠ some (.object domains)) :
    ofText text = .error (.missingSection "domains") := by
  rw [ofText_of_root h, section?_of_object happs, ok_bind, section?_of_ne hdomains]
  rfl

theorem ofText_of_sections (h : Reader.any.run text = .ok root)
    (happs : root.get? "apps" = some (.object apps))
    (hdomains : root.get? "domains" = some (.object domains)) :
    ofText text = .ok (domains.foldl (insertDomain apps) ⟨∅⟩) := by
  rw [ofText_of_root h, section?_of_object happs, ok_bind, section?_of_object hdomains]
  rfl

/-- Only a text without a value is no JSON to the table. -/
theorem exists_ofText_eq_json_iff :
    (∃ e, ofText text = .error (.json e)) ↔ ¬∃ root, Reader.any.run text = .ok root := by
  cases hrun : Reader.any.run text with
  | error e => simp [ofText_of_error hrun]
  | ok root =>
    refine iff_of_false ?_ (by simp)
    rintro ⟨e, he⟩
    by_cases happs : ∃ apps, root.get? "apps" = some (.object apps)
    · obtain ⟨apps, happs⟩ := happs
      by_cases hdomains : ∃ domains, root.get? "domains" = some (.object domains)
      · obtain ⟨domains, hdomains⟩ := hdomains
        rw [ofText_of_sections hrun happs hdomains] at he
        cases he
      · rw [ofText_of_no_domains hrun happs (not_exists.1 hdomains)] at he
        cases he
    · rw [ofText_of_no_apps hrun (not_exists.1 happs)] at he
      cases he

/-- The table of two sections: of the domains with one spelling in small letters the greatest that
is served decides, and the table has as many entries as there are such spellings. -/
structure IsTableOf (apps domains : List (String × Value)) (table : TrackerTable) : Prop where
  get?_iff : ∀ k t, table.get? k = some t ↔ ∃ domain, Decides apps domains k domain t
  size_eq : ∃ keys : Finset String, (∀ k, k ∈ keys ↔
    ∃ domain t, Text.lower domain = k ∧ Serves apps domains domain t) ∧ table.size = keys.card

theorem isTableOf_foldl (happs : Distinct apps) (hdomains : Ordered domains) :
    IsTableOf apps domains (domains.foldl (insertDomain apps) ⟨∅⟩) where
  get?_iff _ _ := get?_foldl_iff happs hdomains
  size_eq := by
    obtain ⟨keys, hkeys, hsize⟩ := exists_keys (domains.foldl (insertDomain apps) ⟨∅⟩)
    exact ⟨keys, fun k => (hkeys k).trans (exists_get?_foldl_iff happs), hsize⟩

/-- **The table of a text.**  A text fails as JSON exactly if it does not spell a tree within the
limits of the reader.  Otherwise it has a value.  If that has no object `apps`, or else no object
`domains`, this is the section that is missing, and if it has both the text has the table of the
two.  Texts that differ in the order of the members of objects cannot be told apart, if no two
members of an object have one name. -/
theorem ofText_spec (text : String) :
    ((∃ e, ofText text = .error (.json e)) ↔
        ¬∃ node : Node, node.SpelledAs text.toList ∧ node.Within Json.maxDepth) ∧
      (∀ node : Node, node.SpelledAs text.toList → node.Within Json.maxDepth →
        ∃ root, Value.ofNode Json.maxDepth node = .ok root ∧
          (ofText text = .error (.missingSection "apps") ↔
            ∀ apps, root.get? "apps" ≠ some (.object apps)) ∧
          (ofText text = .error (.missingSection "domains") ↔
            (∃ apps, root.get? "apps" = some (.object apps)) ∧
              ∀ domains, root.get? "domains" ≠ some (.object domains)) ∧
          ∀ apps domains, root.get? "apps" = some (.object apps) →
            root.get? "domains" = some (.object domains) →
              ∃ table, ofText text = .ok table ∧ IsTableOf apps domains table) ∧
      ∀ (node node' : Node) (text' : String), node.SpelledAs text.toList →
        node'.SpelledAs text'.toList → node.Reordered node' → node.DistinctNames →
          ofText text' = ofText text := by
  refine ⟨?_, fun node hnode hwithin => ?_, fun node node' text' hnode hnode' hr hd => ?_⟩
  · rw [exists_ofText_eq_json_iff, Reader.exists_any_run_eq_ok_iff]
  · obtain ⟨root, hroot⟩ := (hnode.ofNode_succeedsIff Json.maxDepth).succeeds hwithin
    have hrun : Reader.any.run text = .ok root :=
      Reader.any_run_eq_ok_iff.2 ⟨node, hnode, hroot⟩
    refine ⟨root, hroot, ?_⟩
    by_cases happs : ∃ apps, root.get? "apps" = some (.object apps)
    · obtain ⟨apps, happs⟩ := happs
      by_cases hdomains : ∃ domains, root.get? "domains" = some (.object domains)
      · obtain ⟨domains, hdomains⟩ := hdomains
        obtain ⟨apps, rfl⟩ := Value.exists_sortMembers_of_get? hroot happs
        obtain ⟨domains, rfl⟩ := Value.exists_sortMembers_of_get? hroot hdomains
        rw [ofText_of_sections hrun happs hdomains, happs, hdomains]
        refine ⟨iff_of_false (by simp) (by simp), iff_of_false (by simp) (by simp), ?_⟩
        rintro apps' domains' happs' hdomains'
        cases happs'
        cases hdomains'
        exact ⟨_, rfl,
          isTableOf_foldl (Json.distinct_sortMembers apps) (ordered_sortMembers domains)⟩
      · rw [not_exists] at hdomains
        rw [ofText_of_no_domains hrun happs hdomains]
        exact ⟨iff_of_false (by simp) fun h => h apps happs,
          iff_of_true rfl ⟨⟨apps, happs⟩, hdomains⟩,
          fun _ domains _ h => absurd h (hdomains domains)⟩
    · rw [not_exists] at happs
      rw [ofText_of_no_apps hrun happs]
      exact ⟨iff_of_true rfl happs, iff_of_false (by simp) fun ⟨⟨apps, h⟩, _⟩ => happs apps h,
        fun apps _ h => absurd h (happs apps)⟩
  · simp only [ofText, Reader.any_run_eq_of_reordered hnode hnode' hr hd]

/-- Applications, one of which has the identifier `null`. -/
def fewApps : List (String × Value) :=
  [("7", .object [("cat", .string "advertising")]), ("null", .object [("cat", .string "cdn")])]

/-- Domains, two of which have one spelling in small letters; the greater one has no application. -/
def fewDomains : List (String × Value) :=
  [("Ads.com", .string "7"), ("ads.com", .string "8"), ("b.com", .null)]

/-- A domain that is passed over does not hide a smaller one, whatever the order of the sections. -/
theorem ofText_spec_of_collision :
    ∃ table,
      ofText (Value.object [("apps", .object fewApps), ("domains", .object fewDomains)]).compact =
        .ok table ∧
      ofText (Value.object [("domains", .object fewDomains), ("apps", .object fewApps)]).compact =
        .ok table ∧
      IsTableOf fewApps fewDomains table ∧
      table.get? "ads.com" = some ⟨.advertising, "7"⟩ ∧
      table.get? "b.com" = some ⟨.cdn, "null"⟩ := by
  let database : Value := .object [("apps", .object fewApps), ("domains", .object fewDomains)]
  let reordered : Value := .object [("domains", .object fewDomains), ("apps", .object fewApps)]
  have hspelled : ∀ v : Value, (Node.ofValue v).SpelledAs v.compact.toList := by
    intro v
    rw [Value.compact, String.toList_ofList]
    exact Node.spelledAs_chars v
  have hvalue : Value.ofNode Json.maxDepth (Node.ofValue database) = .ok database := by
    simp only [database, fewApps, fewDomains, Node.ofValue, Node.ofMembers, Json.maxDepth,
      Value.ofNode, Value.ofMembers, Json.Quoted.text_ofString, Functor.map, Except.map, ok_bind]
    rfl
  have hwithin : (Node.ofValue database).Within Json.maxDepth :=
    ((hspelled database).ofNode_succeedsIff Json.maxDepth).iff.1 ⟨database, hvalue⟩
  have hreordered : (Node.ofValue database).Reordered (Node.ofValue reordered) :=
    .perm (List.Perm.swap _ _ _)
  have hdistinct : (Node.ofValue database).DistinctNames := by
    simp [database, fewApps, fewDomains, Node.ofValue, Node.ofMembers,
      Json.distinctNames_object_iff, Json.Quoted.text_ofString, Node.DistinctNames.string,
      Node.DistinctNames.null]
  obtain ⟨-, hok, hsame⟩ := ofText_spec database.compact
  obtain ⟨root, hroot, -, -, htable⟩ := hok _ (hspelled database) hwithin
  cases hvalue.symm.trans hroot
  obtain ⟨table, heq, htable⟩ := htable fewApps fewDomains rfl rfl
  have hads : (ofText database.compact).toOption.bind (·.get? "ads.com") =
      some ⟨.advertising, "7"⟩ := by
    decide +kernel
  have hb : (ofText database.compact).toOption.bind (·.get? "b.com") = some ⟨.cdn, "null"⟩ := by
    decide +kernel
  have hequal := hsame _ _ _ (hspelled database) (hspelled reordered) hreordered hdistinct
  rw [heq] at hads hb hequal
  exact ⟨table, heq, hequal, htable, hads, hb⟩

/-- A text that is JSON can have no table as JSON: no double holds the number in this one. -/
theorem not_ofText_eq_json_iff_not_isJson :
    ¬((∃ e, ofText "\x7b\"apps\":\x7b\x7d,\"domains\":\x7b\x7d,\"limit\":1e400\x7d" =
          .error (.json e)) ↔
        ¬Json.IsJson "\x7b\"apps\":\x7b\x7d,\"domains\":\x7b\x7d,\"limit\":1e400\x7d") := by
  have hjson : Json.IsJson "\x7b\"apps\":\x7b\x7d,\"domains\":\x7b\x7d,\"limit\":1e400\x7d" :=
    Json.isJson_iff_run_skip.2 (by decide +kernel)
  have hfails : (Reader.any.run
      "\x7b\"apps\":\x7b\x7d,\"domains\":\x7b\x7d,\"limit\":1e400\x7d").isOk = false := by
    decide +kernel
  intro h
  refine h.1 (exists_ofText_eq_json_iff.2 ?_) hjson
  rintro ⟨root, hroot⟩
  rw [hroot] at hfails
  cases hfails

end Reading

end ContentBlocking.TrackerTable
