import ContentBlocking.Proofs.Compiler.Memory
import ContentBlocking.Proofs.Disk.Commute

/-!
# Compilations that finish in any order

The missing lists are compiled at the same time, and each of them is reported when it is done; the
report is sorted in the end.  `Compiler.invalidateIn` is an invalidation whose compilations finish
in a given order, and `Compiler.invalidate` is the one that takes them in the order of the lists.

The order makes no difference to the report, the store or the disk: two compilations that follow
each other can change places (`Compiler.compileList_swap`), because each writes to files of its own
and reads none that the other writes to.  What an invalidation does is said by
`Compiler.Recompiled`.
-/

namespace ContentBlocking

/-! ### Two compilations -/

namespace RuleStore

variable {s s₁ s₂ : RuleStore} {t t₁ t₂ : FileTree} {dir id id' source source' : String}
  {rules rules' : List Rule}

/-- The files of two lists are apart. -/
theorem apart_filePath (hid : ListName id) (hid' : ListName id') (hne : id ≠ id') (home : Place)
    (dir : String) :
    FileTree.Apart home (besidePath dir id) (filePath dir id) (besidePath dir id')
      (filePath dir id') where
  targets := place_filePath_ne hid.toIsId hid'.toIsId hne home dir
  left := (place_filePath_ne_beside hid'.toIsId hid home dir).symm
  right := (place_filePath_ne_beside hid.toIsId hid' home dir).symm

/-- Lists that compile into a directory do so in either order. -/
theorem compileInto_swap (hid : ListName id) (hid' : ListName id') (hne : id ≠ id')
    (h : compileInto dir id source t = (.ok rules, t₁))
    (h' : compileInto dir id' source' t₁ = (.ok rules', t₂)) :
    ∃ t₁', compileInto dir id' source' t = (.ok rules', t₁') ∧
      compileInto dir id source t₁' = (.ok rules, t₂) := by
  obtain ⟨hrules, hreplace⟩ := compileInto_eq_ok_iff.1 h
  obtain ⟨hrules', hreplace'⟩ := compileInto_eq_ok_iff.1 h'
  obtain ⟨t₁', hfirst, hsecond⟩ := FileTree.replaceTextBelow_swap
    (plainName_fileName hid.toIsId).noSlash (plainName_fileName hid'.toIsId).noSlash
    (apart_filePath hid hid' hne t.home dir) hreplace hreplace'
  exact ⟨t₁', compileInto_eq_ok_iff.2 ⟨hrules', hfirst⟩, compileInto_eq_ok_iff.2 ⟨hrules, hsecond⟩⟩

theorem insert_swap {α : Type} (m : Dict α) {k k' : String} (hne : k ≠ k') (a a' : α) :
    (m.insert k a).insert k' a' = (m.insert k' a').insert k a := by
  refine Std.ExtTreeMap.ext_getElem? fun j => ?_
  simp only [Std.ExtTreeMap.getElem?_insert, Std.LawfulEqCmp.compare_eq_iff_eq]
  split_ifs with hk' hk
  · exact absurd (hk.trans hk'.symm) hne
  · rfl
  · rfl
  · rfl

/-- **Two lists can be compiled in either order**, with the same store and disk after both. -/
theorem compile_swap {r r' : Except StoreError (List Rule)} (hid : ListName id)
    (hid' : ListName id') (hne : id ≠ id') (hsmooth : Smooth r) (hsmooth' : Smooth r')
    (h : s.compile id source t = (r, s₁, t₁)) (h' : s₁.compile id' source' t₁ = (r', s₂, t₂)) :
    ∃ s₁' t₁', s.compile id' source' t = (r', s₁', t₁') ∧
      s₁'.compile id source t₁' = (r, s₂, t₂) := by
  cases r with
  | error e =>
    -- the first list is invalid, which shows whenever it is compiled
    obtain ⟨⟨cause, hcause⟩, rfl, rfl⟩ := compile_error h (by rw [h]; exact hsmooth)
    rw [compile_of_error hcause] at h
    obtain rfl := Except.error.inj (Prod.mk.inj h).1
    exact ⟨s₂, t₂, h', compile_of_error hcause s₂ t₂⟩
  | ok rules =>
    cases r' with
    | error e' =>
      -- the second list is invalid, and was so before the first one was compiled
      obtain ⟨⟨cause, hcause⟩, rfl, rfl⟩ := compile_error h' (by rw [h']; exact hsmooth')
      rw [compile_of_error hcause] at h'
      obtain rfl := Except.error.inj (Prod.mk.inj h').1
      exact ⟨s, t, compile_of_error hcause s t, h⟩
    | ok rules' =>
      cases s with
      | directory dir =>
        rw [compile] at h
        obtain ⟨hinto, rfl, rfl⟩ := by simpa using h
        rw [compile] at h'
        obtain ⟨hinto', rfl, rfl⟩ := by simpa using h'
        obtain ⟨t₁', hfirst, hsecond⟩ :=
          compileInto_swap hid hid' hne (Prod.ext hinto rfl) (Prod.ext hinto' rfl)
        refine ⟨directory dir, t₁', ?_, ?_⟩
        · rw [compile, hfirst]
        · rw [compile, hsecond]
      | memory lists n =>
        obtain ⟨hrules, rfl, rfl⟩ := compile_memory_eq_ok h
        obtain ⟨hrules', rfl, rfl⟩ := compile_memory_eq_ok h'
        refine ⟨_, _, compile_memory_of_ok hrules' lists n id' _, ?_⟩
        rw [compile_memory_of_ok hrules, insert_swap lists hne]

end RuleStore

namespace Compiler

variable {c c₁ c₂ c' : Compiler} {rules : AllowRules} {texts : Blocklist → String}
  {l l' : Blocklist} {ls ls' : List Blocklist} {done done' : Bool}

/-- What a compilation of a list does is done to the store and the disk. -/
theorem exists_compile_of_compileList {source : String} (hsource : c.source rules l = .ok source)
    (h : c.compileList rules l = .ok (done, c₁)) :
    ∃ r s t, c.store.compile l.filename source c.disk = (r, s, t) ∧ done = r.isOk ∧
      c₁ = { c with store := s, disk := t } := by
  rw [compileList_eq hsource] at h
  obtain ⟨rfl, rfl⟩ := Prod.mk.inj (Except.ok.inj h)
  exact ⟨_, _, _, rfl, rfl, rfl⟩

theorem compilesListSmoothly_iff {source : String} (hsource : c.source rules l = .ok source) :
    c.CompilesListSmoothly rules l ↔
      RuleStore.Smooth (c.store.compile l.filename source c.disk).1 := by
  refine ⟨fun h => h source hsource, fun h source' hsource' => ?_⟩
  obtain rfl := Except.ok.inj (hsource.symm.trans hsource')
  exact h

/-- A compilation leaves the bundle alone, and so the sources of all lists. -/
theorem source_of_compileList (hs : c.Separate) (ht : c.Serves texts) (hr : Readable texts)
    (hsmooth : c.CompilesListSmoothly rules l) (h : c.compileList rules l = .ok (done, c₁))
    (l' : Blocklist) : c₁.source rules l' = c.source rules l' := by
  obtain ⟨_, hone, htouch, -⟩ := exists_compileList hs ht hr hsmooth
  obtain ⟨-, rfl⟩ := Prod.mk.inj (Except.ok.inj (h.symm.trans hone))
  rw [source, source, ht l', htouch.serves hs ht l']

/-- **Two lists can change places**, with the same outcomes and the same compiler after both. -/
theorem compileList_swap (hs : c.Separate) (ht : c.Serves texts) (hr : Readable texts)
    (hne : l ≠ l') (hsmooth : c.CompilesListSmoothly rules l)
    (h : c.compileList rules l = .ok (done, c₁)) (hsmooth' : c₁.CompilesListSmoothly rules l')
    (h' : c₁.compileList rules l' = .ok (done', c₂)) :
    ∃ c₁', c.compileList rules l' = .ok (done', c₁') ∧ c.CompilesListSmoothly rules l' ∧
      c₁'.compileList rules l = .ok (done, c₂) ∧ c₁'.CompilesListSmoothly rules l := by
  obtain ⟨source, hsource, -⟩ := exists_source ht hr rules l
  obtain ⟨source', hsource', -⟩ := exists_source ht hr rules l'
  have hsource₁ := (source_of_compileList hs ht hr hsmooth h l').trans hsource'
  rw [compilesListSmoothly_iff hsource] at hsmooth
  rw [compilesListSmoothly_iff hsource₁] at hsmooth'
  obtain ⟨r, s₁, t₁, hcompile, rfl, rfl⟩ := exists_compile_of_compileList hsource h
  obtain ⟨r', s₂, t₂, hcompile', rfl, rfl⟩ := exists_compile_of_compileList hsource₁ h'
  rw [hcompile] at hsmooth
  rw [hcompile'] at hsmooth'
  have hfilename : l.filename ≠ l'.filename := fun heq => hne (Blocklist.filename_injective heq)
  obtain ⟨s₁', t₁', hfirst, hsecond⟩ := RuleStore.compile_swap l.listName_filename
    l'.listName_filename hfilename hsmooth hsmooth' hcompile hcompile'
  have hlist : c.compileList rules l' = .ok (r'.isOk, { c with store := s₁', disk := t₁' }) := by
    rw [compileList_eq hsource', hfirst]
  have hsmoothFirst : c.CompilesListSmoothly rules l' := by
    rw [compilesListSmoothly_iff hsource', hfirst]
    exact hsmooth'
  -- the list that was first finds the same source now
  have hsource₁' := (source_of_compileList hs ht hr hsmoothFirst hlist l).trans hsource
  refine ⟨_, hlist, hsmoothFirst, ?_, ?_⟩
  · rw [compileList_eq hsource₁', hsecond]
  · rw [compilesListSmoothly_iff hsource₁', hsecond]
    exact hsmooth

/-! ### Any number of compilations -/

theorem snd_compileEach_cons (h : c.compileList rules l = .ok (done, c₁)) :
    (c.compileEach rules (l :: ls)).map Prod.snd = (c₁.compileEach rules ls).map Prod.snd := by
  rw [compileEach, h, ok_bind]
  simp only
  cases c₁.compileEach rules ls with
  | error e => rfl
  | ok p => rfl

theorem compilesSmoothly_cons_iff (h : c.compileList rules l = .ok (done, c₁)) :
    c.CompilesSmoothly rules (l :: ls) ↔
      c.CompilesListSmoothly rules l ∧ c₁.CompilesSmoothly rules ls := by
  refine and_congr_right fun _ => ⟨fun hrest => hrest done c₁ h, fun hrest done' c₁' h' => ?_⟩
  obtain ⟨-, rfl⟩ := Prod.mk.inj (Except.ok.inj (h.symm.trans h'))
  exact hrest

/-- **The order of the compilations makes no difference to the compiler after them.**  If the disk
does not fail in one order, it does not fail in any. -/
theorem compileEach_perm (hr : Readable texts) (hperm : ls.Perm ls') (hs : c.Separate)
    (ht : c.Serves texts) (hnodup : ls.Nodup) (hsmooth : c.CompilesSmoothly rules ls) :
    c.CompilesSmoothly rules ls' ∧
      (c.compileEach rules ls').map Prod.snd = (c.compileEach rules ls).map Prod.snd := by
  -- the orders that are exchanged on the way have to be smooth too, so both facts go together
  induction hperm generalizing c with
  | nil => exact ⟨hsmooth, rfl⟩
  | cons l _ ih =>
    obtain ⟨c₁, hone, htouch, -⟩ := exists_compileList hs ht hr hsmooth.1
    rw [compilesSmoothly_cons_iff hone] at hsmooth ⊢
    rw [snd_compileEach_cons hone, snd_compileEach_cons hone]
    obtain ⟨hrest, heq⟩ := ih (htouch.separate hs) (htouch.serves hs ht)
      (List.nodup_cons.1 hnodup).2 hsmooth.2
    exact ⟨⟨hsmooth.1, hrest⟩, heq⟩
  | swap l' l ls =>
    have hne : l ≠ l' := by
      rintro rfl
      exact (List.nodup_cons.1 hnodup).1 List.mem_cons_self
    obtain ⟨c₁, hone, htouch, -⟩ := exists_compileList hs ht hr hsmooth.1
    obtain ⟨hsmooth₁, hsmooth⟩ := (compilesSmoothly_cons_iff hone).1 hsmooth
    obtain ⟨c₂, htwo, -, -⟩ :=
      exists_compileList (htouch.separate hs) (htouch.serves hs ht) hr hsmooth.1
    obtain ⟨hsmooth₂, hrest⟩ := (compilesSmoothly_cons_iff htwo).1 hsmooth
    obtain ⟨c₁', hone', hsmooth₁', htwo', hsmooth₂'⟩ :=
      compileList_swap hs ht hr hne hsmooth₁ hone hsmooth₂ htwo
    rw [compilesSmoothly_cons_iff hone', compilesSmoothly_cons_iff htwo']
    refine ⟨⟨hsmooth₁', hsmooth₂', hrest⟩, ?_⟩
    -- both orders go on from `c₂`
    rw [snd_compileEach_cons hone', snd_compileEach_cons htwo', snd_compileEach_cons hone,
      snd_compileEach_cons htwo]
  | trans hperm _ ih ih' =>
    obtain ⟨hmid, heq⟩ := ih hs ht hnodup hsmooth
    obtain ⟨hlast, heq'⟩ := ih' hs ht (hperm.nodup hnodup) hmid
    exact ⟨hlast, heq'.trans heq⟩

theorem sublist_of_compileEach {compiled : List Blocklist}
    (h : c.compileEach rules ls = .ok (compiled, c')) : compiled.Sublist ls := by
  induction ls generalizing c c' compiled with
  | nil =>
    obtain ⟨rfl, -⟩ := Prod.mk.inj (Except.ok.inj h)
    exact .slnil
  | cons l ls ih =>
    obtain ⟨⟨done, c₁⟩, -, h⟩ := bind_eq_ok.1 h
    obtain ⟨⟨compiled', c₂⟩, hrest, h⟩ := bind_eq_ok.1 h
    obtain ⟨rfl, -⟩ := Prod.mk.inj (Except.ok.inj h)
    cases done with
    | true => exact (ih hrest).cons_cons l
    | false => exact (ih hrest).cons l

end Compiler

/-! ### Reports in the order of completion -/

/-- The place of a list in the order of the lists. -/
def Blocklist.rank (l : Blocklist) : ℕ := all.idxOf l

/-- Some lists in the order of the lists. -/
def Blocklist.sorted (ls : List Blocklist) : List Blocklist :=
  ls.mergeSort fun l l' => decide (l.rank ≤ l'.rank)

theorem Blocklist.rank_injective {l l' : Blocklist} (h : l.rank = l'.rank) : l = l' := by
  revert h
  cases l <;> cases l' <;> decide

theorem Blocklist.sorted_eq_filter {ls : List Blocklist} (h : ls.Nodup) :
    sorted ls = all.filter fun l => ls.contains l := by
  have hsorted : (sorted ls).Pairwise fun l l' => decide (l.rank ≤ l'.rank) = true := by
    refine List.pairwise_mergeSort (fun l l' l'' hl hl' => ?_) (fun l l' => ?_) ls
    · simp only [decide_eq_true_eq] at hl hl' ⊢
      exact hl.trans hl'
    · simpa using Nat.le_total l.rank l'.rank
  have hall : all.Pairwise fun l l' => decide (l.rank ≤ l'.rank) = true := by decide
  have hperm : (sorted ls).Perm (all.filter fun l => ls.contains l) := by
    refine (List.mergeSort_perm _ _).trans ?_
    rw [List.perm_ext_iff_of_nodup h (Compiler.nodup_all.filter _)]
    intro l
    rw [List.mem_filter, List.contains_iff_mem]
    exact (and_iff_right l.mem_all).symm
  refine hperm.eq_of_pairwise (fun l l' _ _ hl hl' => ?_) hsorted (hall.sublist List.filter_sublist)
  simp only [decide_eq_true_eq] at hl hl'
  exact rank_injective (hl.antisymm hl')

namespace CompileReport

/-- The report with a list whose compilation has finished. -/
def add (r : CompileReport) (l : Blocklist) (done : Bool) : CompileReport :=
  if done then { r with compiled := r.compiled ++ [l] } else { r with failed := r.failed ++ [l] }

/-- The report with some lists, of which the ones in `compiled` have compiled. -/
def addEach (r : CompileReport) (ls compiled : List Blocklist) : CompileReport :=
  { r with
    compiled := r.compiled ++ compiled
    failed := r.failed ++ ls.filter fun l => !compiled.contains l }

/-- The report with each part in the order of the lists. -/
def sort (r : CompileReport) : CompileReport :=
  { compiled := Blocklist.sorted r.compiled
    alreadyInstalled := Blocklist.sorted r.alreadyInstalled
    failed := Blocklist.sorted r.failed }

theorem addEach_cons {r : CompileReport} {l : Blocklist} {ls compiled : List Blocklist}
    (hnew : l ∉ ls) (hsub : compiled.Sublist ls) (done : Bool) :
    r.addEach (l :: ls) (if done then l :: compiled else compiled) =
      (r.add l done).addEach ls compiled := by
  have hl : l ∉ compiled := fun hmem => hnew (hsub.subset hmem)
  cases done with
  | true =>
    have hfailed : (l :: ls).filter (fun m => !(l :: compiled).contains m) =
        ls.filter fun m => !compiled.contains m := by
      rw [List.filter_cons_of_neg (by simp)]
      refine List.filter_congr fun m hm => ?_
      have hne : m ≠ l := by
        rintro rfl
        exact hnew hm
      simp [hne]
    simp only [addEach, add, if_true, hfailed, List.append_assoc, List.singleton_append]
  | false =>
    have hfailed : (l :: ls).filter (fun m => !compiled.contains m) =
        l :: ls.filter fun m => !compiled.contains m :=
      List.filter_cons_of_pos (by simp [hl])
    simp only [addEach, add, Bool.false_eq_true, if_false, hfailed, List.append_assoc,
      List.singleton_append]

end CompileReport

namespace Compiler

variable {c c' : Compiler} {rules : AllowRules} {texts : Blocklist → String}
  {l : Blocklist} {lists ls order : List Blocklist} {report : CompileReport}

/-- The compiler after some compilations that finished in this order, and the report with each of
them added when it finished. -/
def finishEach (c : Compiler) (rules : AllowRules) (report : CompileReport) :
    List Blocklist → Except BrokenList (CompileReport × Compiler)
  | [] => .ok (report, c)
  | l :: ls => do
    let (done, c) ← c.compileList rules l
    c.finishEach rules (report.add l done) ls

/-- The compiler with some lists dropped. -/
def dropped (c : Compiler) (lists : List Blocklist) : Compiler :=
  (c.removeEach (lists.map Blocklist.filename)).2

/-- The lists that an invalidation compiles. -/
def due (c : Compiler) (lists : List Blocklist) : List Blocklist := (c.dropped lists).missing

/-- The compiler after some lists were dropped and all missing lists were compiled, whose
compilations finished in this order. -/
def invalidateIn (c : Compiler) (lists : List Blocklist) (rules : AllowRules)
    (order : List Blocklist) : Except BrokenList (CompileReport × Compiler) := do
  let c := c.dropped lists
  let (report, c) ← c.finishEach rules ⟨[], c.installedLists, []⟩ order
  return (report.sort, c)

theorem nodup_missing (c : Compiler) : c.missing.Nodup := nodup_all.filter _

theorem nodup_due (c : Compiler) (lists : List Blocklist) : (c.due lists).Nodup := nodup_missing _

/-- The outcomes are reported in the order of completion. -/
theorem finishEach_eq (hnodup : ls.Nodup) :
    c.finishEach rules report ls =
      (c.compileEach rules ls).map fun p => (report.addEach ls p.1, p.2) := by
  induction ls generalizing c report with
  | nil => simp [finishEach, compileEach, CompileReport.addEach, Except.map]
  | cons l ls ih =>
    obtain ⟨hnew, hnodup⟩ := List.nodup_cons.1 hnodup
    rw [finishEach, compileEach]
    cases hone : c.compileList rules l with
    | error e => rfl
    | ok p =>
      obtain ⟨done, c₁⟩ := p
      simp only [ok_bind, ih hnodup]
      cases hrest : c₁.compileEach rules ls with
      | error e => rfl
      | ok p =>
        obtain ⟨compiled, c₂⟩ := p
        have hcons := CompileReport.addEach_cons (r := report) hnew (sublist_of_compileEach hrest)
          done
        simp only [Except.map, ok_bind, pure, Except.pure, hcons]

/-- Sorting makes up for the order of completion. -/
theorem sort_addEach (hperm : order.Perm c.missing) {compiled : List Blocklist}
    (hsub : compiled.Sublist order) :
    (CompileReport.addEach ⟨[], c.installedLists, []⟩ order compiled).sort =
      Compiler.report c.installedLists compiled := by
  have hnodup : order.Nodup := hperm.nodup_iff.2 c.nodup_missing
  have hinstalled : c.installedLists.Nodup := nodup_all.filter _
  -- what is in the order and did not compile is what neither compiled nor was installed
  have hfailed : Blocklist.all.filter (fun l =>
        (order.filter fun m => !compiled.contains m).contains l) =
      Blocklist.all.filter fun l => !compiled.contains l && !c.installedLists.contains l := by
    refine List.filter_congr fun l hl => ?_
    rw [Bool.eq_iff_iff, List.contains_iff_mem, List.mem_filter, hperm.mem_iff, missing,
      List.mem_filter, Bool.and_eq_true]
    tauto
  simp only [CompileReport.addEach, CompileReport.sort, List.nil_append,
    Blocklist.sorted_eq_filter (hnodup.sublist hsub), Blocklist.sorted_eq_filter hinstalled,
    Blocklist.sorted_eq_filter (hnodup.filter _), hfailed, Compiler.report]

theorem invalidateIn_eq (hperm : order.Perm (c.due lists)) :
    c.invalidateIn lists rules order =
      ((c.dropped lists).compileEach rules order).map fun p =>
        (Compiler.report (c.dropped lists).installedLists p.1, p.2) := by
  have hnodup : order.Nodup := hperm.nodup_iff.2 (c.nodup_due lists)
  rw [invalidateIn]
  simp only [finishEach_eq hnodup]
  cases hcompile : (c.dropped lists).compileEach rules order with
  | error e => rfl
  | ok p =>
    have hsort := sort_addEach hperm (sublist_of_compileEach hcompile)
    simp only [Except.map, ok_bind, pure, Except.pure, hsort]

/-- The order of the lists is one of the orders. -/
theorem invalidateIn_due (c : Compiler) (lists : List Blocklist) (rules : AllowRules) :
    c.invalidateIn lists rules (c.due lists) = c.invalidate lists rules := by
  have hinvalidate : c.invalidate lists rules = (c.dropped lists).compileMissing rules := rfl
  rw [invalidateIn_eq (.refl _), hinvalidate, compileMissing, due, missing]
  simp only
  cases (c.dropped lists).compileEach rules _ with
  | error e => rfl
  | ok p => rfl

theorem report_congr {installed compiled compiled' : List Blocklist}
    (h : ∀ l, l ∈ compiled ↔ l ∈ compiled') :
    Compiler.report installed compiled = Compiler.report installed compiled' := by
  have hcontains : ∀ l, compiled.contains l = compiled'.contains l := by
    intro l
    rw [Bool.eq_iff_iff, List.contains_iff_mem, List.contains_iff_mem]
    exact h l
  simp only [Compiler.report, hcontains]

/-- **The order of completion makes no difference**, neither to the report nor to the compiler. -/
theorem invalidateIn_eq_invalidate (hs : c.Separate) (ht : c.Serves texts) (hr : Readable texts)
    (hsmooth : c.InvalidatesSmoothly lists rules) (hperm : order.Perm (c.due lists)) :
    c.invalidateIn lists rules order = c.invalidate lists rules := by
  have hdrop : Drops texts (· ∈ lists) c (c.dropped lists) :=
    drops_removeEach hs ht hsmooth.listable hsmooth.removes
  have hnodup := c.nodup_due lists
  have hcompiles : (c.dropped lists).CompilesSmoothly rules (c.due lists) := hsmooth.compiles.2
  obtain ⟨hcompiles', heq⟩ :=
    compileEach_perm hr hperm.symm hdrop.separate hdrop.serves hnodup hcompiles
  obtain ⟨c₁, hcompile, -, -⟩ :=
    exists_compileEach hdrop.separate hdrop.serves hr hnodup hcompiles
  obtain ⟨c₂, hcompile', -, -⟩ :=
    exists_compileEach hdrop.separate hdrop.serves hr (hperm.nodup_iff.2 hnodup) hcompiles'
  rw [hcompile, hcompile'] at heq
  obtain rfl : c₂ = c₁ := Except.ok.inj heq
  rw [← invalidateIn_due, invalidateIn_eq hperm, invalidateIn_eq (.refl _), hcompile, hcompile']
  simp only [Except.map]
  rw [report_congr fun l => ?_]
  rw [List.mem_filter, List.mem_filter, hperm.mem_iff]

/-! ### What an invalidation does -/

theorem compilations?_remove (s : RuleStore) (id : String) (t : FileTree) :
    (s.remove id t).2.1.compilations? = s.compilations? := by
  cases s with
  | directory dir => rfl
  | memory lists n =>
    rw [RuleStore.remove]
    split_ifs <;> rfl

theorem compilations?_removeEach (c : Compiler) (ids : List String) :
    (c.removeEach ids).2.store.compilations? = c.store.compilations? := by
  induction ids generalizing c with
  | nil => rfl
  | cons id ids ih =>
    have hone : (c.remove id).2.store.compilations? = c.store.compilations? := by
      rw [remove_snd]
      exact compilations?_remove c.store id c.disk
    exact (ih (c.remove id).2).trans hone

theorem compilations?_compile (s : RuleStore) (id source : String) (t : FileTree) :
    (s.compile id source t).2.1.compilations? =
      s.compilations?.map (· + if (s.compile id source t).1.isOk then 1 else 0) := by
  cases s with
  | directory dir => rfl
  | memory lists n =>
    rw [RuleStore.compile]
    split <;> rfl

theorem compilations?_compileEach {compiled : List Blocklist}
    (h : c.compileEach rules ls = .ok (compiled, c')) :
    c'.store.compilations? = c.store.compilations?.map (· + compiled.length) := by
  induction ls generalizing c c' compiled with
  | nil =>
    obtain ⟨rfl, rfl⟩ := Prod.mk.inj (Except.ok.inj h)
    simp
  | cons l ls ih =>
    obtain ⟨⟨done, c₁⟩, hone, h⟩ := bind_eq_ok.1 h
    obtain ⟨⟨compiled', c₂⟩, hrest, h⟩ := bind_eq_ok.1 h
    obtain ⟨rfl, rfl⟩ := Prod.mk.inj (Except.ok.inj h)
    obtain ⟨source, hsource, -⟩ := bind_eq_ok.1 hone
    rw [compileList_eq hsource] at hone
    obtain ⟨rfl, rfl⟩ := Prod.mk.inj (Except.ok.inj hone)
    rw [ih hrest, compilations?_compile, Option.map_map]
    -- one more if this list compiled
    refine congrArg (fun f => Option.map f _) (funext fun n => ?_)
    simp only [Function.comp_apply]
    split_ifs
    · rw [List.length_cons]
      omega
    · rfl

theorem compilations?_compileMissing (h : c.compileMissing rules = .ok (report, c')) :
    c'.store.compilations? = c.store.compilations?.map (· + report.compiled.length) := by
  obtain ⟨⟨compiled, c₁⟩, heach, h⟩ := bind_eq_ok.1 h
  obtain ⟨rfl, rfl⟩ := Prod.mk.inj (Except.ok.inj h)
  have hnodup : compiled.Nodup := c.nodup_missing.sublist (sublist_of_compileEach heach)
  have hlength : (Compiler.report c.installedLists compiled).compiled.length =
      compiled.length := by
    rw [Compiler.report, ← Blocklist.sorted_eq_filter hnodup, Blocklist.sorted,
      List.length_mergeSort]
  rw [compilations?_compileEach heach, hlength]

/-- What an invalidation did, by its report.  A list that was named or that the store did not list
is compiled from its source, and is in the store with the rules of the source or not in the store;
every other list and whatever else is in the store is as it was. -/
structure Recompiled (c : Compiler) (lists : List Blocklist) (rules : AllowRules)
    (report : CompileReport) (c' : Compiler) : Prop where
  bundle : c'.bundle = c.bundle
  markers : c'.markers = c.markers
  compiled : ∀ {l : Blocklist}, l ∈ report.compiled →
    (l ∈ lists ∨ l.filename ∉ c.installedIds) ∧
      ∃ source rs, c.source rules l = .ok source ∧ RuleList.ofText source = .ok rs ∧
        c'.store.lookup l.filename c'.disk = .ok rs
  failed : ∀ {l : Blocklist}, l ∈ report.failed →
    (l ∈ lists ∨ l.filename ∉ c.installedIds) ∧
      ∃ source cause, c.source rules l = .ok source ∧ RuleList.ofText source = .error cause ∧
        c'.store.Lacks c'.disk l.filename
  installed : ∀ {l : Blocklist}, l ∈ report.alreadyInstalled →
    (l ∉ lists ∧ l.filename ∈ c.installedIds) ∧
      c'.store.lookup l.filename c'.disk = c.store.lookup l.filename c.disk
  partition : (report.compiled ++ report.alreadyInstalled ++ report.failed).Perm Blocklist.all
  sorted : report.compiled.Sublist Blocklist.all ∧ report.alreadyInstalled.Sublist Blocklist.all ∧
    report.failed.Sublist Blocklist.all
  others : ∀ {id : String}, Blocklist.ofFilename? id = none →
    (id ∈ c'.installedIds ↔ id ∈ c.installedIds) ∧
      (id ∈ c.installedIds → c'.store.lookup id c'.disk = c.store.lookup id c.disk)
  /-- The path of no directory is empty, and what has an empty path cannot be listed. -/
  listed : c.store.dir? ≠ some "" → ∀ l : Blocklist,
    l.filename ∈ c'.installedIds ↔ l ∉ report.failed
  compilations : c'.store.compilations? =
    c.store.compilations?.map (· + report.compiled.length)

/-- A list that was reported as compiled is in the store with the rules of its source. -/
theorem Refreshed.exists_rules {dropped : Blocklist → Prop} (ht : c.Serves texts)
    (hr : Readable texts) (h : Refreshed texts rules dropped c report c')
    (hl : l ∈ report.compiled) :
    ∃ source rs, c.source rules l = .ok source ∧ RuleList.ofText source = .ok rs ∧
      c'.store.lookup l.filename c'.disk = .ok rs := by
  obtain ⟨hdue, hsome⟩ := h.compiled.1 hl
  obtain ⟨rs, hrs⟩ := Option.isSome_iff_exists.1 hsome
  obtain ⟨source, hsource, hcompiled⟩ := exists_source_compiled? ht hr rules l
  have hholds := h.fresh hdue
  rw [hrs] at hholds
  exact ⟨source, rs, hsource, toOption_eq_some.1 (hcompiled.symm.trans hrs), hholds⟩

/-- A list that was reported as failed has an invalid source and is not in the store. -/
theorem Refreshed.exists_cause {dropped : Blocklist → Prop} (ht : c.Serves texts)
    (hr : Readable texts) (h : Refreshed texts rules dropped c report c')
    (hl : l ∈ report.failed) :
    ∃ source cause, c.source rules l = .ok source ∧ RuleList.ofText source = .error cause ∧
      c'.store.Lacks c'.disk l.filename := by
  obtain ⟨source, hsource, hcompiled⟩ := exists_source_compiled? ht hr rules l
  have hnone := Option.not_isSome_iff_eq_none.1 (h.failed.1 hl).2
  rw [hcompiled] at hnone
  cases hcause : RuleList.ofText source with
  | ok rs =>
    rw [hcause] at hnone
    cases hnone
  | error cause => exact ⟨source, cause, hsource, hcause, h.has_none_iff.2 hl⟩

theorem InOrder.sublist (h : InOrder ls) : ls.Sublist Blocklist.all := by
  rw [h]
  exact List.filter_sublist

/-- The parts of a report have each list once. -/
theorem Refreshed.partition {dropped : Blocklist → Prop}
    (h : Refreshed texts rules dropped c report c') :
    (report.compiled ++ report.alreadyInstalled ++ report.failed).Perm Blocklist.all := by
  obtain ⟨hcompiled, hinstalled, hfailed⟩ := h.ordered
  have hnodup : (report.compiled ++ report.alreadyInstalled ++ report.failed).Nodup := by
    rw [List.nodup_append, List.nodup_append]
    refine ⟨⟨nodup_all.sublist hcompiled.sublist, nodup_all.sublist hinstalled.sublist, ?_⟩,
      nodup_all.sublist hfailed.sublist, ?_⟩
    · rintro l hl _ hl' rfl
      exact h.installed.1 hl' (h.compiled.1 hl).1
    · rintro l hl _ hl' rfl
      exact h.not_failed_iff.2 (List.mem_append.1 hl) hl'
  rw [List.perm_ext_iff_of_nodup hnodup nodup_all]
  intro l
  rw [List.mem_append, List.mem_append, ← h.not_failed_iff]
  exact iff_of_true (Decidable.not_or_of_imp id) l.mem_all

/-- The files of the lists that an invalidation of some lists compiles. -/
def touched (c : Compiler) (lists : List Blocklist) : Set String :=
  {id | ∃ l : Blocklist, (l ∈ lists ∨ c.Has l none) ∧ l.filename = id}

/-- An invalidation touches no files but those of the lists that it compiles. -/
theorem exists_invalidate_touches (hs : c.Separate) (ht : c.Serves texts) (hr : Readable texts)
    (hsmooth : c.InvalidatesSmoothly lists rules) :
    ∃ report c', c.invalidate lists rules = .ok (report, c') ∧ Touches (c.touched lists) c c' ∧
      Refreshed texts rules (· ∈ lists) c report c' ∧
      c'.store.compilations? = c.store.compilations?.map (· + report.compiled.length) := by
  have hdrop : Drops texts (· ∈ lists) c (c.dropped lists) :=
    drops_removeEach hs ht hsmooth.listable hsmooth.removes
  have hadmits : ∀ id ∈ lists.map Blocklist.filename, c.store.Admits id := by
    intro id hid
    obtain ⟨l, -, rfl⟩ := List.mem_map.1 hid
    exact l.admits _
  have htouch : Touches (c.touched lists) c (c.dropped lists) := by
    refine (touches_removeEach hadmits hs.tidy).mono fun id hid => ?_
    obtain ⟨l, hl, rfl⟩ := List.mem_map.1 hid
    exact ⟨l, .inl hl, rfl⟩
  obtain ⟨report, c', hcompile, -, htouch', hrefreshed⟩ :=
    exists_compileMissing hdrop.separate hdrop.serves hr hsmooth.compiles
  have htouch'' : Touches (c.touched lists) (c.dropped lists) c' := by
    refine htouch'.mono fun id hid => ?_
    obtain ⟨l, hl, rfl⟩ := List.mem_map.1 hid
    exact ⟨l, hdrop.has_none_iff.1 ((mem_missing_iff hsmooth.compiles.1).1 hl), rfl⟩
  refine ⟨report, c', hcompile, htouch.trans htouch'', hrefreshed.of_drops hdrop, ?_⟩
  rw [compilations?_compileMissing hcompile, dropped, compilations?_removeEach]

/-! ### What is listed -/

section Listed

variable {ids : Set String} {id : String} (htouch : Touches ids c c')
  (hlist : c.store.Listable c.disk)
include htouch

theorem Touches.rooted (hmem : id ∈ c.installedIds) : c'.store.Rooted c'.disk :=
  htouch.store.rooted
    (RuleStore.rooted_of_mem_identifiers (identifiers_of_mem_installedIds hmem) hmem)

include hlist

/-- What is not touched is looked up as before. -/
theorem Touches.lookup (hid : id ∉ ids) (hmem : id ∈ c.installedIds) :
    c'.store.lookup id c'.disk = c.store.lookup id c.disk := by
  obtain ⟨hadmits, hpresent⟩ := of_mem_installedIds hlist.plain hmem
  exact htouch.store.lookup hlist hid hadmits hpresent

/-- What is not touched is listed as before. -/
theorem Touches.mem_installedIds_iff_of_notMem (hid : id ∉ ids) :
    id ∈ c'.installedIds ↔ id ∈ c.installedIds := by
  have hplain' : c'.store.Plain c'.disk := htouch.store.plain hlist.plain
  constructor
  · intro hmem
    obtain ⟨hadmits', hpresent'⟩ := of_mem_installedIds hplain' hmem
    have hadmits := RuleStore.admits_of_dir? htouch.store.dir.symm hadmits'
    rw [mem_installedIds_iff hadmits hlist]
    exact fun hlacks => hpresent' (htouch.store.lacks hid hadmits hlacks)
  · intro hmem
    obtain ⟨hadmits, hpresent⟩ := of_mem_installedIds hlist.plain hmem
    have hlist' := (htouch.rooted hmem).listable hplain'
    rw [mem_installedIds_iff (RuleStore.admits_of_dir? htouch.store.dir hadmits) hlist']
    exact htouch.store.present hid hadmits hpresent

/-- After an invalidation the lists are listed that have not failed.  A directory with an empty path
is never listed, although files can be put there. -/
theorem Refreshed.mem_installedIds_iff_not_failed {dropped : Blocklist → Prop}
    (ht : c.Serves texts) (hr : Readable texts) (h : Refreshed texts rules dropped c report c')
    (hdir : c.store.dir? ≠ some "") : l.filename ∈ c'.installedIds ↔ l ∉ report.failed := by
  have hplain' : c'.store.Plain c'.disk := htouch.store.plain hlist.plain
  rw [← h.has_none_iff]
  refine ⟨fun hmem => (of_mem_installedIds hplain' hmem).2, fun hpresent => ?_⟩
  -- the directory is there for the sake of a list that is in the store
  have hrooted : c'.store.Rooted c'.disk := by
    rw [h.has_none_iff, h.not_failed_iff] at hpresent
    rcases hpresent with hcompiled | hinstalled
    · obtain ⟨source, rs, -, -, hholds⟩ := h.exists_rules ht hr hcompiled
      refine RuleStore.rooted_of_holds (l.admits _) ?_ hholds
      rw [htouch.store.dir]
      exact hdir
    · refine htouch.rooted ((mem_installedIds_iff (l.admits _) hlist).2 fun hnone => ?_)
      exact h.installed.1 hinstalled (.inr hnone)
  exact (mem_installedIds_iff (l.admits _) (hrooted.listable hplain')).2 hpresent

end Listed

theorem recompiled_of_refreshed (ht : c.Serves texts) (hr : Readable texts)
    (hlist : c.store.Listable c.disk) (htouch : Touches (c.touched lists) c c')
    (h : Refreshed texts rules (· ∈ lists) c report c')
    (hcompilations : c'.store.compilations? =
      c.store.compilations?.map (· + report.compiled.length)) :
    c.Recompiled lists rules report c' := by
  have hmem : ∀ {l : Blocklist}, l.filename ∈ c.installedIds ↔ ¬c.Has l none :=
    fun {l} => mem_installedIds_iff (l.admits _) hlist
  have hdue : ∀ {l : Blocklist}, l ∈ lists ∨ l.filename ∉ c.installedIds ↔
      l ∈ lists ∨ c.Has l none := by
    intro l
    rw [hmem, not_not]
  refine
    { bundle := h.bundle
      markers := htouch.markers
      compiled := fun hl => ⟨hdue.2 (h.compiled.1 hl).1, h.exists_rules ht hr hl⟩
      failed := fun hl => ⟨hdue.2 (h.failed.1 hl).1, h.exists_cause ht hr hl⟩
      installed := fun {l} hl => ?_
      partition := h.partition
      sorted := ⟨h.ordered.1.sublist, h.ordered.2.1.sublist, h.ordered.2.2.sublist⟩
      others := fun {id} hunknown => ?_
      listed := fun hdir l => h.mem_installedIds_iff_not_failed htouch hlist ht hr hdir
      compilations := hcompilations }
  · obtain ⟨hnamed, hpresent⟩ := not_or.1 (h.installed.1 hl)
    refine ⟨⟨hnamed, hmem.2 hpresent⟩, htouch.lookup hlist ?_ (hmem.2 hpresent)⟩
    rintro ⟨m, hm, heq⟩
    obtain rfl := Blocklist.filename_injective heq
    exact h.installed.1 hl hm
  · -- only lists with a name of the five are touched
    have hid : id ∉ c.touched lists := by
      rintro ⟨l, -, rfl⟩
      rw [Blocklist.ofFilename?_eq_some_iff.2 rfl] at hunknown
      cases hunknown
    exact ⟨htouch.mem_installedIds_iff_of_notMem hlist hid, htouch.lookup hlist hid⟩

/-- **An invalidation compiles what was named or missing, and touches nothing else**, in whatever
order its compilations finish.  If nothing is named, it is the pass over the missing lists. -/
theorem recompiled_in_any_order (hs : c.Separate) (ht : c.Serves texts) (hr : Readable texts)
    (hsmooth : c.InvalidatesSmoothly lists rules) :
    ∃ report c', c.invalidate lists rules = .ok (report, c') ∧
      (lists = [] → c.compileMissing rules = .ok (report, c')) ∧
      c.Recompiled lists rules report c' ∧
      ∀ order, order.Perm (c.due lists) → c.invalidateIn lists rules order = .ok (report, c') := by
  obtain ⟨report, c', hinvalidate, htouch, hrefreshed, hcompilations⟩ :=
    exists_invalidate_touches hs ht hr hsmooth
  refine ⟨report, c', hinvalidate, ?_,
    recompiled_of_refreshed ht hr hsmooth.listable htouch hrefreshed hcompilations, ?_⟩
  · rintro rfl
    exact hinvalidate
  · intro order hperm
    rw [invalidateIn_eq_invalidate hs ht hr hsmooth hperm, hinvalidate]

/-- An invalidation of a list that is named twice, whose compilations finish in reverse order.  An
unknown list stays in the store. -/
theorem recompiled_in_reverse_order :
    let c := { uniform "[]" ⟨0⟩ with
      store := .memory (.ofList [("old", []), ("safari-ads-network", []),
        ("safari-popups-network", [])]) 0 }
    let lists := [Blocklist.advertisingNetwork, Blocklist.advertisingNetwork]
    ∃ report c', c.invalidate lists (fun _ => none) = .ok (report, c') ∧
      c.invalidateIn lists (fun _ => none) (c.due lists).reverse = .ok (report, c') ∧
      Blocklist.popupsNetwork ∈ report.alreadyInstalled ∧ "old" ∈ c'.installedIds := by
  intro c lists
  have hs : c.Separate := separate_of_memory rfl fun _ p hp => absurd hp (Set.notMem_empty p)
  obtain ⟨report, c', hinvalidate, -, hrecompiled, horder⟩ := recompiled_in_any_order hs
    (serves_uniform "[]" ⟨0⟩) readable_empty (invalidatesSmoothly_of_memory rfl lists fun _ => none)
  have hids : c.installedIds = ["old", "safari-ads-network", "safari-popups-network"] := rfl
  refine ⟨report, c', hinvalidate, horder _ (List.reverse_perm _), ?_, ?_⟩
  · have hmem := hrecompiled.partition.mem_iff.2 Blocklist.popupsNetwork.mem_all
    -- it was not named and is in the store, so it was neither compiled nor did it fail
    have hkept : ¬(Blocklist.popupsNetwork ∈ lists ∨
        Blocklist.popupsNetwork.filename ∉ c.installedIds) := by
      rw [hids]
      decide
    rcases List.mem_append.1 hmem with hmem | hfailed
    · rcases List.mem_append.1 hmem with hcompiled | hinstalled
      · exact absurd (hrecompiled.compiled hcompiled).1 hkept
      · exact hinstalled
    · exact absurd (hrecompiled.failed hfailed).1 hkept
  · refine (hrecompiled.others (by decide)).1.2 ?_
    rw [hids]
    exact List.mem_cons_self

end Compiler

end ContentBlocking
