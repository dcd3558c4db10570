import ContentBlocking.Proofs.Compiler.Completion
import ContentBlocking.Proofs.Compiler.Rebuild
import ContentBlocking.Proofs.Rule.Buildable

/-!
# Valid lists that end the program

A bundle whose texts are valid rule lists may still be defective: a pass of a compiler ends at the
first list that has to be compiled and cannot be built (`Compiler.EndsAtUnbuildable`).  All passes
are of this kind, a startup and an invalidation as much as a single list.  Which lists have to be
compiled depends on the store, and which of them can be built depends on the bundled texts only
(`RuleList.Buildable`), not on the rules that are added, the disk, or what became of other lists:
a compilation that fails leaves the bundle as it was.
-/

namespace ContentBlocking.Compiler

open RuleList (Buildable)

variable {c : Compiler} {rules : AllowRules} {texts : Blocklist → String} {ls : List Blocklist}

/-- The bundled texts are valid rule lists. -/
def Valid (texts : Blocklist → String) : Prop := ∀ l, ∃ rs, RuleList.ofText (texts l) = .ok rs

/-- A pass over some lists succeeds if all of them can be built, and the first one that cannot ends
it. -/
structure EndsAtUnbuildable {α : Type} (texts : Blocklist → String) (ls : List Blocklist)
    (x : Except BrokenList α) : Prop where
  ok_iff : (∃ r, x = .ok r) ↔ ∀ l ∈ ls, Buildable (texts l)
  error_iff : ∀ e, x = .error e ↔ ∃ before l after, ls = before ++ l :: after ∧
    (∀ m ∈ before, Buildable (texts m)) ∧ ¬Buildable (texts l) ∧ e = .malformed l .malformed

namespace EndsAtUnbuildable

variable {α β : Type} {l : Blocklist}

theorem nil (a : α) : EndsAtUnbuildable texts [] (.ok a) :=
  ⟨by simp, by simp⟩

theorem cons_of_not (h : ¬Buildable (texts l)) (ls : List Blocklist) :
    EndsAtUnbuildable texts (l :: ls) (.error (.malformed l .malformed) : Except BrokenList α) where
  ok_iff := by simp [h]
  error_iff e := by
    constructor
    · rintro ⟨⟩
      exact ⟨[], l, ls, rfl, by simp, h, rfl⟩
    · rintro ⟨_ | ⟨m, before⟩, l', after, heq, hbefore, -, rfl⟩
      · obtain ⟨rfl, -⟩ := List.cons.inj heq
        rfl
      · obtain ⟨rfl, -⟩ := List.cons.inj heq
        exact absurd (hbefore l List.mem_cons_self) h

theorem cons {x : Except BrokenList α} (h : Buildable (texts l))
    (hx : EndsAtUnbuildable texts ls x) : EndsAtUnbuildable texts (l :: ls) x where
  ok_iff := by rw [hx.ok_iff, List.forall_mem_cons, and_iff_right h]
  error_iff e := by
    rw [hx.error_iff]
    constructor
    · rintro ⟨before, l', after, rfl, hbefore, hl', he⟩
      exact ⟨l :: before, l', after, rfl, List.forall_mem_cons.2 ⟨h, hbefore⟩, hl', he⟩
    · rintro ⟨_ | ⟨m, before⟩, l', after, heq, hbefore, hl', he⟩
      · obtain ⟨rfl, -⟩ := List.cons.inj heq
        exact absurd h hl'
      · obtain ⟨rfl, rfl⟩ := List.cons.inj heq
        exact ⟨before, l', after, rfl, (List.forall_mem_cons.1 hbefore).2, hl', he⟩

theorem map {x : Except BrokenList α} (hx : EndsAtUnbuildable texts ls x) (f : α → β) :
    EndsAtUnbuildable texts ls (x >>= fun a => .ok (f a)) where
  ok_iff := by
    rw [← hx.ok_iff]
    cases x <;> simp [bind, Except.bind]
  error_iff e := by
    rw [← hx.error_iff]
    cases x <;> simp [bind, Except.bind]

end EndsAtUnbuildable

/-! ### Lists one by one -/

theorem source_eq_ok_iff (ht : c.Serves texts) {l : Blocklist} {source : String} :
    c.source rules l = .ok source ↔
      RuleList.synthesize (texts l) (rules l.kind) l.isCosmetic = .ok source := by
  rw [Compiler.source, ht l]
  cases hbuilt : RuleList.synthesize (texts l) (rules l.kind) l.isCosmetic <;> simp [hbuilt]

/-- The source of a list can be made exactly if its text can be built. -/
theorem source_endsAtUnbuildable (ht : c.Serves texts) (hv : Valid texts) (rules : AllowRules)
    (l : Blocklist) : EndsAtUnbuildable texts [l] (c.source rules l) := by
  obtain ⟨rs, hrs⟩ := hv l
  have hbuild := RuleList.synthesize_succeedsIff hrs (rules l.kind) l.isCosmetic
  by_cases h : Buildable (texts l)
  · obtain ⟨source, hsource⟩ := hbuild.succeeds h
    rw [(source_eq_ok_iff ht).2 hsource]
    exact (EndsAtUnbuildable.nil source).cons h
  · have hfails : c.source rules l = .error (.malformed l .malformed) := by
      rw [Compiler.source, ht l]
      simp only [hbuild.fails h]
    rw [hfails]
    exact .cons_of_not h []

/-- **One list after the other is compiled, up to the first that cannot be built.** -/
theorem compileEach_endsAtUnbuildable (hs : c.Separate) (ht : c.Serves texts) (hv : Valid texts)
    (rules : AllowRules) (ls : List Blocklist) :
    EndsAtUnbuildable texts ls (c.compileEach rules ls) := by
  -- each compilation leaves the bundle to the next one, whether it fails on the disk or not
  induction ls generalizing c with
  | nil => exact .nil _
  | cons l ls ih =>
    have hsource := source_endsAtUnbuildable ht hv rules l
    by_cases h : Buildable (texts l)
    · obtain ⟨source, hsource⟩ := hsource.ok_iff.2 (by simpa using h)
      obtain ⟨⟨done, c₁⟩, hone⟩ : ∃ r, c.compileList rules l = .ok r := ⟨_, compileList_eq hsource⟩
      have htouch := touches_compileList hs hsource hone
      rw [compileEach, hone, ok_bind]
      exact ((ih (htouch.separate hs) (htouch.serves hs ht)).map _).cons h
    · have hfails : c.source rules l = .error (.malformed l .malformed) :=
        (hsource.error_iff _).2 ⟨[], l, [], rfl, by simp, h, rfl⟩
      rw [compileEach, compileList, hfails]
      exact .cons_of_not h ls

theorem compileMissing_endsAtUnbuildable (hs : c.Separate) (ht : c.Serves texts)
    (hv : Valid texts) (rules : AllowRules) :
    EndsAtUnbuildable texts c.missing (c.compileMissing rules) :=
  (compileEach_endsAtUnbuildable hs ht hv rules c.missing).map _

/-! ### Purged stores -/

/-- A marker that is written elsewhere leaves the names in the directory of the store alone. -/
theorem plain_mark (h : c.Unshared) (hplain : c.store.Plain c.disk) (date : Date) :
    (c.mark date).store.Plain (c.mark date).disk := by
  have hconfined := c.confined_mark date
  intro dir hdir name hentry
  rw [store_mark] at hdir
  have hinside : Path.place c.disk.home dir ++ [name] ∈ c.store.inside c.disk.home := by
    rw [RuleStore.inside, hdir]
    exact ⟨name, rfl⟩
  obtain ⟨hway, hwritten⟩ := h.store_markers _ hinside
  rw [hconfined.home, hconfined.entry_eq hway hwritten] at hentry
  exact hplain dir hdir name hentry

/-- A bundle, a store and markers that share nothing, and whose texts are known. -/
structure Served (texts : Blocklist → String) (c : Compiler) : Prop extends Unshared c where
  tidy : c.store.Tidy c.disk.home
  plain : c.store.Plain c.disk
  serves : c.Serves texts

namespace Served

variable {c' : Compiler}

theorem separate (h : c.Served texts) : c.Separate := h.toUnshared.separate h.tidy

theorem of_touches {ids : Set String} (h : c.Served texts) (htouch : Touches ids c c') :
    c'.Served texts where
  toUnshared := h.toUnshared.of_touches htouch
  tidy := (htouch.separate h.separate).tidy
  plain := htouch.store.plain h.plain
  serves := htouch.serves h.separate h.serves

theorem mark (h : c.Served texts) (date : Date) : (c.mark date).Served texts where
  toUnshared := h.toUnshared.mark date
  tidy := (separate_mark h.separate date).tidy
  plain := plain_mark h.toUnshared h.plain date
  serves := serves_mark h.separate h.serves date

theorem removeAll (h : c.Served texts) : c.removeAll.2.Served texts :=
  h.of_touches (touches_removeAll h.tidy h.plain)

theorem purgeByDate (h : c.Served texts) : c.purgeByDate.2.Served texts := by
  rcases purgeByDate_eq c with ⟨-, heq⟩ | ⟨newest, -, -, heq⟩
  · rwa [heq]
  · rw [heq]
    exact h.removeAll.mark newest

theorem purgeByName (h : c.Served texts) : c.purgeByName.2.Served texts := by
  rcases purgeByName_eq c with ⟨-, heq⟩ | heq
  · rwa [heq]
  · rw [heq]
    exact h.removeAll

theorem dropped (h : c.Served texts) (lists : List Blocklist) : (c.dropped lists).Served texts := by
  refine h.of_touches (touches_removeEach (fun id hid => ?_) h.tidy)
  obtain ⟨l, -, rfl⟩ := List.mem_map.1 hid
  exact l.admits _

end Served

/-! ### Passes -/

/-- **A valid list can be built exactly if what no rule reads of it is within the limits**, whatever
rules are added to it; and a pass over valid lists ends the program at the first list that has to be
compiled and cannot be built. -/
theorem endsAtUnbuildable (h : c.Served texts) (hv : Valid texts) (rules : AllowRules) :
    (∀ text rs, RuleList.ofText text = .ok rs → ∀ allowRule cosmetic,
      Json.SucceedsIff (Buildable text) (RuleList.synthesize text allowRule cosmetic)) ∧
    (∀ l, EndsAtUnbuildable texts [l] (c.source rules l)) ∧
    EndsAtUnbuildable texts c.purgeByDate.2.purgeByName.2.missing (c.startup rules) ∧
    EndsAtUnbuildable texts c.missing (c.compileMissing rules) ∧
    ∀ lists, EndsAtUnbuildable texts (c.due lists) (c.invalidate lists rules) := by
  refine ⟨fun text rs => RuleList.synthesize_succeedsIff, ?_, ?_, ?_, fun lists => ?_⟩
  · exact source_endsAtUnbuildable h.serves hv rules
  · have hpurged := h.purgeByDate.purgeByName
    exact compileMissing_endsAtUnbuildable hpurged.separate hpurged.serves hv rules
  · exact compileMissing_endsAtUnbuildable h.separate h.serves hv rules
  · have hdropped := h.dropped lists
    exact compileMissing_endsAtUnbuildable hdropped.separate hdropped.serves hv rules

/-- A list of one rule with a member that no rule reads. -/
def withWeight (weight : String) : String :=
  "[\x7b\"trigger\":\x7b\"url-filter\":\".*\"\x7d,\"action\":\x7b\"type\":\"block\"\x7d," ++
    "\"weight\":" ++ weight ++ "\x7d]"

theorem served_uniform (text : String) (date : Date) :
    (uniform text date).Served fun _ => text where
  bundle_store _ p hp := absurd hp (Set.notMem_empty p)
  bundle_markers _ p hp := absurd hp (Set.notMem_empty p)
  store_markers p hp := absurd hp (Set.notMem_empty p)
  way_markers _ p hp := absurd hp (Set.notMem_empty p)
  tidy p hp := absurd hp (Set.notMem_empty p)
  plain dir hdir := by cases hdir
  serves := serves_uniform text date

/-- Both texts are valid, but no double holds the weight in the second one. -/
theorem endsAtUnbuildable_of_weight :
    (∃ r, (uniform (withWeight "1e300") ⟨0⟩).startup (fun _ => none) = .ok r) ∧
      (uniform (withWeight "1e400") ⟨0⟩).startup (fun _ => none) =
        .error (.malformed .advertisingNetwork .malformed) := by
  have hvalid : ∀ weight, RuleList.read (withWeight weight) =
      .ok [⟨⟨".*", none, none, none, none, none, none, none⟩, ⟨.block, none⟩⟩] →
        Valid fun _ => withWeight weight := by
    intro weight hread _
    refine ⟨_, RuleList.ofText_eq_ok_iff.2 ⟨hread, ?_⟩⟩
    rw [List.forall_mem_singleton]
    exact RuleList.problem?_everything rfl (by decide) rfl
  have hlight := hvalid "1e300" (by decide +kernel)
  have hheavy := hvalid "1e400" (by decide +kernel)
  obtain ⟨rs, hrs⟩ := hlight .advertisingNetwork
  obtain ⟨rs', hrs'⟩ := hheavy .advertisingNetwork
  obtain ⟨hbuild, -, hstartup, -, -⟩ :=
    endsAtUnbuildable (served_uniform (withWeight "1e300") ⟨0⟩) hlight fun _ => none
  obtain ⟨-, -, hstartup', -, -⟩ :=
    endsAtUnbuildable (served_uniform (withWeight "1e400") ⟨0⟩) hheavy fun _ => none
  have hbuilt : (RuleList.synthesize (withWeight "1e300") none false).isOk = true := by
    decide +kernel
  have hfails : (RuleList.synthesize (withWeight "1e400") none false).isOk = false := by
    decide +kernel
  have hbuildable : Buildable (withWeight "1e300") := by
    rw [← (hbuild _ _ hrs none false).iff]
    cases hsource : RuleList.synthesize (withWeight "1e300") none false with
    | ok source => exact ⟨source, rfl⟩
    | error e =>
      rw [hsource] at hbuilt
      cases hbuilt
  have hunbuildable : ¬Buildable (withWeight "1e400") := by
    intro h
    obtain ⟨source, hsource⟩ := (hbuild _ _ hrs' none false).succeeds h
    rw [hsource] at hfails
    cases hfails
  refine ⟨hstartup.ok_iff.2 fun _ _ => hbuildable, (hstartup'.error_iff _).2 ?_⟩
  have hmissing :
      (uniform (withWeight "1e400") ⟨0⟩).purgeByDate.2.purgeByName.2.missing = Blocklist.all := by
    decide +kernel
  exact ⟨[], .advertisingNetwork, _, hmissing, by simp, hunbuildable, rfl⟩

end ContentBlocking.Compiler
