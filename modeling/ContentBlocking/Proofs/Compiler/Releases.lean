import ContentBlocking.Proofs.Compiler.Memory
import ContentBlocking.Proofs.Compiler.Startup
import Mathlib.Logic.Relation

/-!
# Releases of the bundle

The bundle of an installation is replaced from time to time, by one with a later date if any text
changed.  Between startups the store may hold lists of an old bundle beside newer ones, since a list
that is dropped is compiled from the bundle as it is by then.

`Installation.Step` is one startup, one invalidation or one new bundle.  The invariant
(`Installation.Sound`): the marker has the date of the bundle at the last startup, which is the
latest so far, and if the bundle still has that date then every list in the store is what its
bundled text compiles to.  So a startup leaves no list of an old bundle
(`Installation.current_of_startup`).
-/

namespace ContentBlocking

open Relation (ReflTransGen)

namespace Compiler

variable {c c' : Compiler} {rules : AllowRules} {texts : Blocklist → String} {o : Option Nat}
  {n : Nat}

/-! ### Milliseconds of the marker -/

/-- The marker has some milliseconds, or there is none. -/
def Marked (c : Compiler) : Option Nat → Prop
  | none => c.markers.date? bundleDateKey = none
  | some m => ∃ kept, c.markers.date? bundleDateKey = some kept ∧ kept.millis? = some m

theorem Marked.congr (h : c.Marked o) (hmarkers : c'.markers = c.markers) : c'.Marked o := by
  cases o with
  | none => rwa [Marked, hmarkers]
  | some m => rwa [Marked, hmarkers]

theorem isStale_iff (h : c.Marked o) {newest : Date} (hn : newest.millis? = some n) :
    c.isStale newest = true ↔ ∀ m, o = some m → m < n := by
  cases o with
  | none =>
    rw [isStale, h]
    simp
  | some m =>
    obtain ⟨kept, hkept, hm⟩ := h
    rw [isStale, hkept]
    simp [hm, hn, Date.laterMillis]

theorem marked_mark (c : Compiler) {newest : Date} (hn : newest.millis? = some n) :
    (c.mark newest).Marked (some n) :=
  MarkerStore.exists_date?_setDate c.markers bundleDateKey c.disk hn

/-- **The marker has the date of the bundle at the last startup.** -/
theorem marked_purgeByDate (h : c.Marked o) {newest : Date}
    (hnewest : c.newestBundleDate? = some newest) (hn : newest.millis? = some n)
    (hle : ∀ m, o = some m → m ≤ n) : c.purgeByDate.2.Marked (some n) := by
  rcases purgeByDate_eq c with ⟨hfalse, hsame⟩ | ⟨newest', hnewest', -, heq⟩
  · rw [hsame]
    have hfresh : ¬∀ m, o = some m → m < n := by
      intro hstale
      have hpurged := (purgeByDate_iff c).2 ⟨newest, hnewest, (isStale_iff h hn).2 hstale⟩
      rw [hfalse] at hpurged
      cases hpurged
    push Not at hfresh
    obtain ⟨m, rfl, hm⟩ := hfresh
    obtain rfl : m = n := le_antisymm (hle m rfl) hm
    exact h
  · obtain rfl : newest = newest' := Option.some.inj (hnewest.symm.trans hnewest')
    rw [heq]
    exact marked_mark c.removeAll.2 hn

/-! ### Lists of the bundle -/

/-- A list is missing, or what its bundled text and a rule compile to. -/
def HasCurrent (c : Compiler) (l : Blocklist) (text : String) (rule : Option Json.Value) : Prop :=
  c.Has l none ∨ c.Has l (l.compiled? text rule)

/-- The rules that lists were last compiled with, after a pass. -/
def usedAfter (used : Blocklist → Option Json.Value) (rules : AllowRules) (report : CompileReport)
    (l : Blocklist) : Option Json.Value :=
  if l ∈ report.compiled then rules l.kind else used l

/-- A pass keeps lists current, and makes those current that it drops. -/
theorem Refreshed.current {dropped : Blocklist → Prop} {report : CompileReport}
    (h : Refreshed texts rules dropped c report c') {used : Blocklist → Option Json.Value}
    {l : Blocklist} (hcurrent : dropped l ∨ c.HasCurrent l (texts l) (used l)) :
    c'.HasCurrent l (texts l) (usedAfter used rules report l) := by
  by_cases hfresh : dropped l ∨ c.Has l none
  · have hhas := h.fresh hfresh
    by_cases hcompiled : (l.compiled? (texts l) (rules l.kind)).isSome = true
    · right
      rw [usedAfter, if_pos (h.compiled.2 ⟨hfresh, hcompiled⟩)]
      exact hhas
    · left
      rw [Option.not_isSome_iff_eq_none.1 hcompiled] at hhas
      exact hhas
  · obtain ⟨hdrop, hpresent⟩ := not_or.1 hfresh
    have hhas := (hcurrent.resolve_left hdrop).resolve_left hpresent
    right
    rw [usedAfter, if_neg fun hcompiled => hfresh (h.compiled.1 hcompiled).1]
    exact h.kept hdrop hpresent hhas

end Compiler

/-- A compiler over time, with what has happened to it. -/
structure Installation where
  compiler : Compiler
  /-- The bundled texts. -/
  texts : Blocklist → String
  /-- The milliseconds of the date of the bundle. -/
  newest : Nat
  /-- The rule that each list was last compiled with. -/
  used : Blocklist → Option Json.Value
  /-- The milliseconds of the date of the bundle at each startup so far, the last one first. -/
  dates : List Nat

namespace Installation

/-- The installation after a pass. -/
def passed (i : Installation) (rules : AllowRules) (report : CompileReport) (c : Compiler) :
    Installation :=
  { i with compiler := c, used := Compiler.usedAfter i.used rules report }

/-- The installation after a startup. -/
def started (i : Installation) (rules : AllowRules) (report : CompileReport) (c : Compiler) :
    Installation :=
  { i.passed rules report c with dates := i.newest :: i.dates }

/-- The bundle of a compiler has readable texts and a date of whole milliseconds. -/
structure Bundled (c : Compiler) (texts : Blocklist → String) (newest : Nat) : Prop where
  separate : c.Separate
  serves : c.Serves texts
  readable : Compiler.Readable texts
  date : c.newestBundleDate? = some (.ofMillis newest)
  bound : newest < 0x10000000000000000

/-- There was no startup and there is no marker; the store may have any lists. -/
structure Begins (i : Installation) : Prop where
  bundled : Bundled i.compiler i.texts i.newest
  unmarked : i.compiler.markers.date? Compiler.bundleDateKey = none
  dates : i.dates = []

/-- A startup, an invalidation or a new bundle, whose date is later if any text changed.  Nothing
fails because of the disk. -/
inductive Step : Installation → Installation → Prop
  | startup {i : Installation} {rules : AllowRules} {report : CompileReport} {c : Compiler}
      (hsmooth : i.compiler.StartsSmoothly rules) (h : i.compiler.startup rules = .ok (report, c)) :
      Step i (i.started rules report c)
  | invalidate {i : Installation} {lists : List Blocklist} {rules : AllowRules}
      {report : CompileReport} {c : Compiler} (hsmooth : i.compiler.InvalidatesSmoothly lists rules)
      (h : i.compiler.invalidate lists rules = .ok (report, c)) : Step i (i.passed rules report c)
  | update {i : Installation} {c : Compiler} {texts : Blocklist → String} {newest : Nat}
      (hmarkers : c.markers = i.compiler.markers)
      (hlists : ∀ {l : Blocklist} {o : Option (List Rule)}, i.compiler.Has l o → c.Has l o)
      (hbundled : Bundled c texts newest) (hle : i.newest ≤ newest)
      (hchanged : texts ≠ i.texts → i.newest < newest) :
      Step i { i with compiler := c, texts, newest }

/-- The invariant of runs. -/
structure Sound (i : Installation) : Prop where
  bundled : Bundled i.compiler i.texts i.newest
  marked : i.compiler.Marked i.dates.head?
  dates_le : ∀ d ∈ i.dates, d ≤ i.newest
  current : i.dates.head? = some i.newest →
    ∀ l, i.compiler.HasCurrent l (i.texts l) (i.used l)

variable {i j : Installation} {rules : AllowRules} {report : CompileReport} {c : Compiler}

theorem Bundled.of_refreshed {texts : Blocklist → String} {newest : Nat}
    {dropped : Blocklist → Prop} {c' : Compiler} (h : Bundled c texts newest)
    (hrefreshed : Compiler.Refreshed texts rules dropped c report c') : Bundled c' texts newest :=
  ⟨hrefreshed.separate, hrefreshed.serves, h.readable, hrefreshed.newest.trans h.date, h.bound⟩

theorem Begins.sound (h : i.Begins) : i.Sound where
  bundled := h.bundled
  marked := by
    rw [h.dates]
    exact h.unmarked
  dates_le := by simp [h.dates]
  current := by simp [h.dates]

/-! ### Steps -/

theorem Sound.marked_purgeByDate (h : i.Sound) :
    i.compiler.purgeByDate.2.Marked (some i.newest) := by
  refine Compiler.marked_purgeByDate h.marked h.bundled.date
    (Date.millis?_ofMillis h.bundled.bound) fun m hm => ?_
  exact h.dates_le m (List.mem_of_head? hm)

/-- A startup purges by date if the bundle is newer than the last startup. -/
theorem Sound.purges_iff (h : i.Sound) :
    i.compiler.purgeByDate.1 = true ↔ ∀ m, i.dates.head? = some m → m < i.newest := by
  have hstale := Compiler.isStale_iff h.marked (Date.millis?_ofMillis h.bundled.bound)
  rw [Compiler.purgeByDate_iff, h.bundled.date, ← hstale]
  simp

theorem sound_startup (h : i.Sound) (hsmooth : i.compiler.StartsSmoothly rules)
    (hrun : i.compiler.startup rules = .ok (report, c)) : (i.started rules report c).Sound := by
  obtain ⟨report', c', hrun', hmarkers, -, hrefreshed⟩ :=
    Compiler.exists_startup h.bundled.separate h.bundled.serves h.bundled.readable hsmooth
  obtain ⟨rfl, rfl⟩ := Prod.mk.inj (Except.ok.inj (hrun.symm.trans hrun'))
  refine ⟨h.bundled.of_refreshed hrefreshed, h.marked_purgeByDate.congr hmarkers, ?_, ?_⟩
  · intro d hd
    rcases List.mem_cons.1 hd with rfl | hd
    · exact le_rfl
    · exact h.dates_le d hd
  · intro _ l
    refine hrefreshed.current ?_
    by_cases hpurged : i.compiler.purgeByDate.1 = true
    · exact .inl (.inl hpurged)
    · -- the bundle is that of the last startup
      rw [h.purges_iff] at hpurged
      push Not at hpurged
      obtain ⟨m, hm, hle⟩ := hpurged
      obtain rfl : m = i.newest := le_antisymm (h.dates_le m (List.mem_of_head? hm)) hle
      exact .inr (h.current hm l)

theorem sound_invalidate {lists : List Blocklist} (h : i.Sound)
    (hsmooth : i.compiler.InvalidatesSmoothly lists rules)
    (hrun : i.compiler.invalidate lists rules = .ok (report, c)) :
    (i.passed rules report c).Sound := by
  obtain ⟨report', c', hrun', hmarkers, hrefreshed⟩ :=
    Compiler.exists_invalidate h.bundled.separate h.bundled.serves h.bundled.readable hsmooth
  obtain ⟨rfl, rfl⟩ := Prod.mk.inj (Except.ok.inj (hrun.symm.trans hrun'))
  refine ⟨h.bundled.of_refreshed hrefreshed, h.marked.congr hmarkers, h.dates_le, ?_⟩
  exact fun hdate l => hrefreshed.current (.inr (h.current hdate l))

theorem sound_update {texts : Blocklist → String} {newest : Nat} (h : i.Sound)
    (hmarkers : c.markers = i.compiler.markers)
    (hlists : ∀ {l : Blocklist} {o : Option (List Rule)}, i.compiler.Has l o → c.Has l o)
    (hbundled : Bundled c texts newest) (hle : i.newest ≤ newest)
    (hchanged : texts ≠ i.texts → i.newest < newest) :
    Sound { i with compiler := c, texts, newest } := by
  refine ⟨hbundled, h.marked.congr hmarkers, fun d hd => (h.dates_le d hd).trans hle, ?_⟩
  intro hdate l
  -- a bundle of the date of the last startup is the bundle of the last startup
  have hsame : i.newest = newest :=
    le_antisymm hle (h.dates_le newest (List.mem_of_head? hdate))
  have htexts : texts = i.texts := by
    by_contra hne
    exact absurd (hchanged hne) (by omega)
  subst htexts
  exact (h.current (hdate.trans (congrArg some hsame.symm)) l).imp hlists hlists

theorem sound_step (h : i.Sound) (hstep : Step i j) : j.Sound := by
  cases hstep with
  | startup hsmooth hrun => exact sound_startup h hsmooth hrun
  | invalidate hsmooth hrun => exact sound_invalidate h hsmooth hrun
  | update hmarkers hlists hbundled hle hchanged =>
    exact sound_update h hmarkers hlists hbundled hle hchanged

theorem sound_of_run (h : i.Sound) (hrun : ReflTransGen Step i j) : j.Sound := by
  induction hrun with
  | refl => exact h
  | tail _ hstep ih => exact sound_step ih hstep

/-- The purge by date happens if no marker is kept or an earlier one is. -/
theorem Sound.purges_iff_kept (h : i.Sound) :
    i.compiler.purgeByDate.1 = true ↔
      ∀ kept, i.compiler.markers.date? Compiler.bundleDateKey = some kept →
        ∃ m, kept.millis? = some m ∧ m < i.newest := by
  rw [h.purges_iff]
  have hmarked := h.marked
  cases hdate : i.dates.head? with
  | none =>
    rw [hdate] at hmarked
    refine iff_of_true (by simp) fun kept hkept => ?_
    rw [hmarked] at hkept
    cases hkept
  | some m =>
    rw [hdate] at hmarked
    obtain ⟨kept, hkept, hm⟩ := hmarked
    simp [hkept, hm]

/-- **No list of an old bundle is left by a startup.**  After any startup of any run, the marker has
the latest date of the bundle at a startup, and every list in the store is what the text of the
bundle compiles to, with the rule that the list was last compiled with.  The startup purges by date
if there was no marker or an earlier one. -/
theorem current_of_startup {first : Installation} (hfirst : first.Begins)
    (hrun : ReflTransGen Step first i) (hsmooth : i.compiler.StartsSmoothly rules) :
    ∃ report c, i.compiler.startup rules = .ok (report, c) ∧
      (∃ kept m, c.markers.date? Compiler.bundleDateKey = some kept ∧ kept.millis? = some m ∧
        m ∈ i.newest :: i.dates ∧ ∀ d ∈ i.newest :: i.dates, d ≤ m) ∧
      (i.compiler.purgeByDate.1 = true ↔
        ∀ kept, i.compiler.markers.date? Compiler.bundleDateKey = some kept →
          ∃ m, kept.millis? = some m ∧ m < i.newest) ∧
      ∀ ids, c.store.identifiers c.disk = .ok ids → ∀ id ∈ ids,
        ∃ (l : Blocklist) (source : String) (rs : List Rule), l.filename = id ∧
          RuleList.synthesize (i.texts l) (Compiler.usedAfter i.used rules report l) l.isCosmetic =
            .ok source ∧
          RuleList.ofText source = .ok rs ∧ c.store.lookup id c.disk = .ok rs := by
  have h := sound_of_run hfirst.sound hrun
  obtain ⟨report, c, hstartup, -, htouch, -⟩ :=
    Compiler.exists_startup h.bundled.separate h.bundled.serves h.bundled.readable hsmooth
  have hafter := sound_startup h hsmooth hstartup
  refine ⟨report, c, hstartup, ?_, ?_, ?_⟩
  · obtain ⟨kept, hkept, hm⟩ := hafter.marked
    exact ⟨kept, i.newest, hkept, hm, List.mem_cons_self, hafter.dates_le⟩
  · exact h.purges_iff_kept
  · intro ids hids id hid
    obtain ⟨l, rfl, hpresent⟩ := Compiler.exists_of_mem_identifiers h.bundled.separate
      h.bundled.serves hsmooth htouch hids hid
    have hcurrent : c.Has l (l.compiled? (i.texts l) (Compiler.usedAfter i.used rules report l)) :=
      (hafter.current rfl l).resolve_left hpresent
    cases hcompiled : l.compiled? (i.texts l) (Compiler.usedAfter i.used rules report l) with
    | none =>
      -- a list that does not compile is not in the store
      rw [hcompiled] at hcurrent
      exact absurd hcurrent hpresent
    | some rs =>
      rw [hcompiled] at hcurrent
      obtain ⟨source, hsource, hrs⟩ := Blocklist.compiled?_eq_some_iff.1 hcompiled
      exact ⟨l, source, rs, rfl, hsource, hrs, hcurrent⟩

/-- A new bundle comes after a startup. -/
theorem current_of_startup_of_update :
    ∃ (i : Installation) (report : CompileReport) (c : Compiler),
      i.dates = [1] ∧ i.newest = 2 ∧ i.compiler.startup (fun _ => none) = .ok (report, c) ∧
      (∃ kept m, c.markers.date? Compiler.bundleDateKey = some kept ∧ kept.millis? = some m ∧
        m ∈ [2, 1] ∧ ∀ d ∈ [2, 1], d ≤ m) ∧
      ∀ ids, c.store.identifiers c.disk = .ok ids → ∀ id ∈ ids,
        ∃ (l : Blocklist) (source : String) (rs : List Rule), l.filename = id ∧
          RuleList.synthesize "[ ]" (Compiler.usedAfter i.used (fun _ => none) report l)
            l.isCosmetic = .ok source ∧
          RuleList.ofText source = .ok rs ∧ c.store.lookup id c.disk = .ok rs := by
  let first : Installation :=
    { compiler :=
        { Compiler.uniform "[]" (.ofMillis 1) with store := .memory (.ofList [("old", [])]) 0 }
      texts := fun _ => "[]", newest := 1, used := fun _ => none, dates := [] }
  have hfirst : first.Begins :=
    ⟨⟨Compiler.separate_of_memory rfl fun _ p hp => absurd hp (Set.notMem_empty p),
      Compiler.serves_uniform "[]" (.ofMillis 1), Compiler.readable_empty, rfl, by decide⟩,
      rfl, rfl⟩
  -- a startup
  have hsmooth := Compiler.startsSmoothly_of_memory (c := first.compiler) rfl fun _ => none
  obtain ⟨report, c, hstartup, -⟩ := Compiler.exists_startup hfirst.bundled.separate
    hfirst.bundled.serves hfirst.bundled.readable hsmooth
  have hmemory : c.store.dir? = none := Compiler.dir?_startup hstartup
  -- a new bundle, of another text
  let c' : Compiler := { c with bundle := (Compiler.uniform "[ ]" (.ofMillis 2)).bundle }
  have hreadable : Compiler.Readable fun _ => "[ ]" := by
    have hread : RuleList.readItems.run "[ ]" = .ok [] := by rfl
    exact fun _ => ⟨[], hread⟩
  have hserves : c'.Serves fun _ => "[ ]" := by
    intro l
    cases l <;> rfl
  have hbundled : Bundled c' (fun _ => "[ ]") 2 :=
    ⟨Compiler.separate_of_memory hmemory fun _ p hp => absurd hp (Set.notMem_empty p), hserves,
      hreadable, rfl, by decide⟩
  let i : Installation := first.started (fun _ => none) report c
  have hupdate : Step i { i with compiler := c', texts := fun _ => "[ ]", newest := 2 } :=
    .update rfl (fun h => h) hbundled Nat.le.refl.step fun _ => Nat.lt_add_one 1
  have hrun := (ReflTransGen.single (Step.startup hsmooth hstartup)).tail hupdate
  -- and another startup
  have hsmooth' := Compiler.startsSmoothly_of_memory (c := c') hmemory fun _ => none
  obtain ⟨report', c'', hstartup', hdate, -, hlists⟩ := current_of_startup hfirst hrun hsmooth'
  exact ⟨_, report', c'', rfl, rfl, hstartup', hdate, hlists⟩

end Installation

end ContentBlocking
