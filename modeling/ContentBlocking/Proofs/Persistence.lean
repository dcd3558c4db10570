import ContentBlocking.Proofs.AllowList.Restart
import ContentBlocking.Proofs.Compiler.Startup

/-!
# What is kept on disk

Allow-lists, compiled rule lists and markers are written as a whole: whichever step of a write fails,
its target holds what it held before, and all that is left of the attempt are the directories made
for it and the file beside the target (`writes_allOrNothing`).  What is in memory does not depend on
the disk.

A rule list that is compiled into a directory `x.json/..` shows the exception that
`FileTree.AllOrNothing` makes: for the list `x`, the directory that has to be made first is the file
that the list is to be kept in (`RuleStore.compileInto_fills_target`).
-/

namespace ContentBlocking

open FileTree (AllOrNothing)

/-! ### Allow-lists -/

namespace AllowList.Store

/-- A disk holds the allow-list at a path: its text, or nothing if it is empty. -/
def IsKeptAt (s : Store) (path : String) (t : FileTree) : Prop :=
  if s.domains.isEmpty then t.stat path = .error .notFound
  else t.readText path = .ok (textOfDomains s.domains)

theorem allOrNothing_persist {s : Store} {path : String} (hpath : s.path = some path)
    (t : FileTree) :
    AllOrNothing ∅ (Path.withExtension path "tmp") path (s.IsKeptAt path)
      ((s.persist t).1 = .ok ()) t (s.persist t).2 := by
  have hrefl : FileTree.Grown ∅ t t := .refl ∅ t
  simp only [persist, hpath]
  by_cases hempty : s.domains.isEmpty = true
  · rw [if_pos hempty]
    have hkept : ∀ t', t'.stat path = .error .notFound → s.IsKeptAt path t' := by
      intro t' hstat
      rw [IsKeptAt, if_pos hempty]
      exact hstat
    split
    · next t' hremove =>
      refine ⟨fun _ => hkept _ (FileTree.stat_of_removeFile hremove), fun h => absurd rfl h,
        fun h => absurd rfl h, fun p _ hp => .inl ?_⟩
      exact (FileTree.confined_removeFile hremove).entry_eq (Set.notMem_empty _) hp
    · next hremove =>
      -- there was no file, which is as good as having removed it
      exact ⟨fun _ => hkept _ (FileTree.stat_of_removeFile_notFound hremove), fun h => absurd rfl h,
        fun h => absurd rfl h, fun _ _ _ => .inl rfl⟩
    · exact hrefl.allOrNothing _ _ _ (by simp)
  · rw [if_neg hempty]
    have h := hrefl.allOrNothing_replaceText (Path.withExtension path "tmp") path
      (textOfDomains s.domains)
    refine ⟨fun hok => ?_, h.kept, h.found, h.elsewhere⟩
    rw [IsKeptAt, if_neg hempty]
    exact h.done hok

end AllowList.Store

/-! ### Rule lists -/

namespace RuleStore

theorem allOrNothing_compileInto {source : String} {rules : List Rule}
    (hrules : RuleList.ofText source = .ok rules) (dir id : String) (t : FileTree) :
    AllOrNothing (Path.way t.home dir) (besidePath dir id) (filePath dir id)
      (fun t' => t'.readText (filePath dir id) = .ok (RuleList.text rules))
      ((compileInto dir id source t).1 = .ok rules) t (compileInto dir id source t).2 := by
  have hwrite := t.allOrNothing_replaceTextBelow dir (besidePath dir id) (filePath dir id)
    (RuleList.text rules)
  rw [compileInto_eq hrules]
  generalize t.replaceTextBelow dir _ _ _ = attempt at hwrite ⊢
  obtain ⟨r, t'⟩ := attempt
  cases r with
  | error e => exact hwrite.congr (by simp)
  | ok u => exact hwrite.congr (by simp)

/-- **A write that fails may fill its target.**  The list `x` of the directory `x.json/..` is kept in
the file `x.json`, which the directory cannot be without: nothing was there, and a directory is. -/
theorem compileInto_fills_target :
    let t := FileTree.empty [] ⟨0⟩
    let target := filePath "x.json/.." "x"
    let attempt := compileInto "x.json/.." "x" "[]" t
    attempt.1 = .error (.io "x" .isDirectory) ∧
      t.stat target = .error .notFound ∧ attempt.2.stat target = .ok .directory := by
  intro t target attempt
  -- the search for a slash at the front of a path is irreducible
  refine ⟨?_, ?_, ?_⟩
  · with_unfolding_all decide
  · with_unfolding_all decide
  · with_unfolding_all decide

end RuleStore

/-! ### Markers -/

namespace MarkerStore

variable {path : String} {markers : Dict Nat} {key : String} {date : Date}

theorem persist_eq (path : String) (markers : Dict Nat) (t : FileTree) :
    persist path markers t = t.replaceTextBelow ((Path.parent? path).getD "")
      (Path.withExtension path "tmp") path (textOfMarkers markers) := by
  rcases hcreate : t.createDirectories ((Path.parent? path).getD "") with ⟨r, t₁⟩
  cases r <;> simp only [persist, FileTree.replaceTextBelow, hcreate]

theorem allOrNothing_setDate {n : ℕ} (hmillis : date.millis? = some n) (path : String)
    (markers : Dict Nat) (key : String) (t : FileTree) :
    AllOrNothing (Path.way t.home ((Path.parent? path).getD "")) (Path.withExtension path "tmp") path
      (fun t' => t'.readText path = .ok (textOfMarkers (markers.insert key n)))
      (((file path markers).setDate key date t).1 = .ok ()) t
      ((file path markers).setDate key date t).2.2 := by
  have hwrite := t.allOrNothing_replaceTextBelow ((Path.parent? path).getD "")
    (Path.withExtension path "tmp") path (textOfMarkers (markers.insert key n))
  simp only [setDate, hmillis, persist_eq]
  generalize t.replaceTextBelow _ _ _ _ = attempt at hwrite ⊢
  obtain ⟨r, t'⟩ := attempt
  cases r with
  | error e => exact hwrite.congr (by simp)
  | ok u => exact hwrite.congr (by simp)

theorem date?_setDate {n : ℕ} (hmillis : date.millis? = some n) (t : FileTree) (key' : String) :
    ((file path markers).setDate key date t).2.1.date? key' =
      if key' = key then some (Date.ofMillis n) else (file path markers).date? key' := by
  rw [setDate_file_of_millis hmillis, date?, date?]
  by_cases hkey : key' = key
  · rw [if_pos hkey, hkey, Std.ExtTreeMap.getElem?_insert_self]
    rfl
  · rw [if_neg hkey, Std.ExtTreeMap.getElem?_insert,
      if_neg fun heq => hkey (Std.LawfulEqCmp.compare_eq_iff_eq.1 heq).symm]

theorem setDate_of_beforeEpoch (hmillis : date.millis? = none) (t : FileTree) :
    (file path markers).setDate key date t =
      (.error .beforeEpoch, file path markers, t) := by
  rw [setDate, hmillis]

end MarkerStore

/-- **Every write is all or nothing**, and memory is ahead of the disk only by what could not be
written.  An edit of an allow-list takes effect in memory whatever becomes of its file, and so does
the date of a marker; a source that is no rule list and a date before the epoch change nothing. -/
theorem writes_allOrNothing (t : FileTree) :
    (∀ (s : AllowList.Store) (path : String), s.path = some path →
      AllOrNothing ∅ (Path.withExtension path "tmp") path (s.IsKeptAt path)
        ((s.persist t).1 = .ok ()) t (s.save t)) ∧
    (∀ (s : AllowList.Store) (enabled : Bool) (url host domain : String),
      Url.normalizedHost? url = some host →
        (s.setAllowListed enabled url t).2.1.domains.contains domain =
          if domain = host then enabled else s.domains.contains domain) ∧
    (∀ (dir id source : String) (rules : List Rule), RuleList.ofText source = .ok rules →
      AllOrNothing (Path.way t.home dir)
        (Path.withExtension (RuleStore.filePath dir id) "json.tmp") (RuleStore.filePath dir id)
        (fun t' => t'.readText (RuleStore.filePath dir id) = .ok (RuleList.text rules))
        ((RuleStore.compileInto dir id source t).1 = .ok rules) t
        (RuleStore.compileInto dir id source t).2) ∧
    (∀ (s : RuleStore) (id source : String) (cause : RuleError),
      RuleList.ofText source = .error cause →
        s.compile id source t = (.error (.compile id cause), s, t)) ∧
    (∀ (path key : String) (markers : Dict Nat) (date : Date) (n : ℕ), date.millis? = some n →
      AllOrNothing (Path.way t.home ((Path.parent? path).getD ""))
        (Path.withExtension path "tmp") path
        (fun t' => t'.readText path = .ok (MarkerStore.textOfMarkers (markers.insert key n)))
        (((MarkerStore.file path markers).setDate key date t).1 = .ok ()) t
        ((MarkerStore.file path markers).setDate key date t).2.2 ∧
      ∀ key', ((MarkerStore.file path markers).setDate key date t).2.1.date? key' =
        if key' = key then some (Date.ofMillis n) else (MarkerStore.file path markers).date? key') ∧
    ∀ (path key : String) (markers : Dict Nat) (date : Date), date.millis? = none →
      (MarkerStore.file path markers).setDate key date t =
        (.error .beforeEpoch, .file path markers, t) := by
  refine ⟨?_, ?_, ?_, ?_, ?_, ?_⟩
  · intro s path hpath
    exact AllowList.Store.allOrNothing_persist hpath t
  · intro s enabled url host domain hhost
    exact AllowList.Store.contains_setAllowListed hhost enabled t domain
  · intro dir id source rules hrules
    exact RuleStore.allOrNothing_compileInto hrules dir id t
  · intro s id source cause hsource
    exact RuleStore.compile_of_error hsource s t
  · intro path key markers date n hmillis
    exact ⟨MarkerStore.allOrNothing_setDate hmillis path markers key t,
      MarkerStore.date?_setDate hmillis t⟩
  · intro path key markers date hmillis
    exact MarkerStore.setDate_of_beforeEpoch hmillis t

/-- On an empty disk an allow-list cannot be written to the missing directory `docs`, and its path
still leads nowhere; a rule list is compiled into the missing directory `rules`, which is made. -/
theorem writes_allOrNothing_of_missing_directories :
    let t := FileTree.empty [] ⟨0⟩
    let s : AllowList.Store := ⟨.ads, some "docs/ads_whitelist", .ofList ["a.com"]⟩
    let compiled := RuleStore.compileInto "rules" "ads" "[]" t
    ((s.persist t).1 = .error .notFound ∧ ∀ e, (s.save t).stat "docs/ads_whitelist" ≠ .ok e) ∧
      compiled.1 = .ok [] ∧
      compiled.2.readText (RuleStore.filePath "rules" "ads") = .ok (RuleList.text []) := by
  intro t s compiled
  have hall := writes_allOrNothing t
  have hfails : (s.persist t).1 = .error .notFound := by with_unfolding_all decide
  have hnothing : t.stat "docs/ads_whitelist" = .error .notFound := by with_unfolding_all decide
  have hcompiles : compiled.1 = .ok [] := by with_unfolding_all decide
  have hrules : RuleList.ofText "[]" = .ok [] := by decide
  refine ⟨⟨hfails, fun e hfound => ?_⟩, hcompiles, ?_⟩
  · rcases (hall.1 s _ rfl).found (by rw [hfails]; simp) e hfound with hheld | ⟨⟨p, hp, -⟩, -⟩
    · rw [hnothing] at hheld
      cases hheld
    · exact absurd hp (Set.notMem_empty p)
  · exact (hall.2.2.1 "rules" "ads" "[]" [] hrules).done hcompiles

end ContentBlocking
