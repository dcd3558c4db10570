import ContentBlocking.Proofs.Compiler.Contents

/-!
# What the passes of a compiler do

`Compiler.startup` and `Compiler.invalidate` drop some lists and compile what is missing then: both
leave a compiler `Compiler.Refreshed`, in which every list that was dropped or missing is what its
bundled text compiles to, and every other list is as it was (`Compiler.exists_invalidate`,
`Compiler.exists_startup`).  The passes succeed if the bundle can be read; of the disk it is assumed
that no removal, no listing and no writing of a list fails on the way (`Compiler.StartsSmoothly`,
`Compiler.InvalidatesSmoothly`).
-/

namespace ContentBlocking.Compiler

variable {c c' c'' : Compiler} {rules : AllowRules} {texts : Blocklist → String}

/-! ### Removal -/

theorem remove_snd (c : Compiler) (id : String) :
    (c.remove id).2 =
      { c with
        store := (c.store.remove id c.disk).2.1, disk := (c.store.remove id c.disk).2.2 } := by
  rw [remove]
  split
  · next heq => rw [heq]
  · next heq => rw [heq]

theorem touches_remove {id : String} (hid : c.store.Admits id) (htidy : c.store.Tidy c.disk.home) :
    Touches {id} c (c.remove id).2 := by
  rw [remove_snd]
  exact ⟨rfl, rfl, RuleStore.touches_remove hid htidy⟩

/-- No removal fails because of the disk. -/
def RemovesSmoothly (c : Compiler) : List String → Prop
  | [] => True
  | id :: ids => RuleStore.Smooth (c.store.remove id c.disk).1 ∧ RemovesSmoothly (c.remove id).2 ids

theorem touches_removeEach {ids : List String} (hids : ∀ id ∈ ids, c.store.Admits id)
    (htidy : c.store.Tidy c.disk.home) : Touches {id | id ∈ ids} c (c.removeEach ids).2 := by
  induction ids generalizing c with
  | nil => exact .refl _ c
  | cons id ids ih =>
    have hone := touches_remove (hids id List.mem_cons_self) htidy
    have hrest : Touches {id | id ∈ ids} (c.remove id).2 ((c.remove id).2.removeEach ids).2 := by
      refine ih (fun id' hid' => ?_) (hone.store.tidy htidy)
      exact RuleStore.admits_of_dir? hone.store.dir (hids id' (List.mem_cons_of_mem id hid'))
    refine (hone.mono ?_).trans (hrest.mono ?_)
    · rintro id' rfl
      exact List.mem_cons_self
    · exact fun id' hid' => List.mem_cons_of_mem id hid'

theorem lacks_removeEach {ids : List String} (hids : ∀ id ∈ ids, c.store.Admits id)
    (htidy : c.store.Tidy c.disk.home) (hlist : c.store.Listable c.disk)
    (hsmooth : c.RemovesSmoothly ids) :
    ∀ id ∈ ids, (c.removeEach ids).2.store.Lacks (c.removeEach ids).2.disk id := by
  induction ids generalizing c with
  | nil => simp
  | cons id ids ih =>
    have hone := touches_remove (hids id List.mem_cons_self) htidy
    have hids' : ∀ id' ∈ ids, (c.remove id).2.store.Admits id' := fun id' hid' =>
      RuleStore.admits_of_dir? hone.store.dir (hids id' (List.mem_cons_of_mem id hid'))
    have hlist' : (c.remove id).2.store.Listable (c.remove id).2.disk := by
      rw [remove_snd]
      exact RuleStore.listable_remove (hids id List.mem_cons_self) hlist
    have hrest := ih hids' (hone.store.tidy htidy) hlist' hsmooth.2
    intro id' hid'
    by_cases hmem : id' ∈ ids
    · exact hrest id' hmem
    · obtain rfl : id' = id := (List.mem_cons.1 hid').resolve_right hmem
      have hlacks : (c.remove id').2.store.Lacks (c.remove id').2.disk id' := by
        rw [remove_snd]
        exact RuleStore.lacks_remove (hids id' List.mem_cons_self) hlist hsmooth.1
      have htouch := touches_removeEach hids' (hone.store.tidy htidy)
      exact htouch.store.lacks hmem (RuleStore.admits_of_dir? hone.store.dir
        (hids id' List.mem_cons_self)) hlacks

theorem mem_installedIds_iff {id : String} (hid : c.store.Admits id)
    (hlist : c.store.Listable c.disk) : id ∈ c.installedIds ↔ ¬c.store.Lacks c.disk id := by
  rw [installedIds]
  cases hids : c.store.identifiers c.disk with
  | ok ids => exact RuleStore.mem_identifiers_iff hid hlist hids
  | error e => simp [RuleStore.lacks_of_identifiers_error hid hlist hids]

/-- A store that has an identifier could be listed. -/
theorem identifiers_of_mem_installedIds {id : String} (h : id ∈ c.installedIds) :
    c.store.identifiers c.disk = .ok c.installedIds := by
  rw [installedIds] at h ⊢
  cases hids : c.store.identifiers c.disk with
  | ok ids => rfl
  | error e =>
    rw [hids] at h
    cases h

theorem of_mem_installedIds (hplain : c.store.Plain c.disk) {id : String}
    (h : id ∈ c.installedIds) : c.store.Admits id ∧ ¬c.store.Lacks c.disk id :=
  RuleStore.of_mem_identifiers hplain (identifiers_of_mem_installedIds h) h

theorem admits_of_mem_installedIds (hplain : c.store.Plain c.disk) :
    ∀ id ∈ c.installedIds, c.store.Admits id :=
  fun _ hid => (of_mem_installedIds hplain hid).1

theorem touches_removeAll (htidy : c.store.Tidy c.disk.home) (hplain : c.store.Plain c.disk) :
    Touches Set.univ c c.removeAll.2 :=
  (touches_removeEach (admits_of_mem_installedIds hplain) htidy).mono (Set.subset_univ _)

/-- An emptied store lacks every list. -/
theorem lacks_removeAll (htidy : c.store.Tidy c.disk.home) (hlist : c.store.Listable c.disk)
    (hsmooth : c.RemovesSmoothly c.installedIds) {id : String} (hid : c.store.Admits id) :
    c.removeAll.2.store.Lacks c.removeAll.2.disk id := by
  have hadmits := admits_of_mem_installedIds hlist.plain
  by_cases hmem : id ∈ c.installedIds
  · exact lacks_removeEach hadmits htidy hlist hsmooth id hmem
  · have hlacks : c.store.Lacks c.disk id := by
      by_contra hlacks
      exact hmem ((mem_installedIds_iff hid hlist).2 hlacks)
    exact (touches_removeEach hadmits htidy).store.lacks hmem hid hlacks

/-! ### Dropped lists -/

/-- Some lists were dropped and all others are as they were. -/
structure Drops (texts : Blocklist → String) (dropped : Blocklist → Prop) (c c' : Compiler) :
    Prop where
  bundle : c'.bundle = c.bundle
  separate : c'.Separate
  serves : c'.Serves texts
  newest : c'.newestBundleDate? = c.newestBundleDate?
  lacks : ∀ {l : Blocklist}, dropped l → c'.Has l none
  has : ∀ {l : Blocklist} {o : Option (List Rule)}, ¬dropped l → c.Has l o → c'.Has l o
  present : ∀ {l : Blocklist}, ¬dropped l → ¬c.Has l none → ¬c'.Has l none

theorem Drops.refl (hs : c.Separate) (ht : c.Serves texts) : Drops texts (fun _ => False) c c :=
  ⟨rfl, hs, ht, rfl, False.elim, fun _ ho => ho, fun _ hl => hl⟩

theorem Drops.trans {dropped dropped' : Blocklist → Prop} (h : Drops texts dropped c c')
    (h' : Drops texts dropped' c' c'') : Drops texts (fun l => dropped l ∨ dropped' l) c c'' where
  bundle := h'.bundle.trans h.bundle
  separate := h'.separate
  serves := h'.serves
  newest := h'.newest.trans h.newest
  lacks {l} hl := by
    by_cases hl' : dropped' l
    · exact h'.lacks hl'
    · exact h'.has hl' (h.lacks (hl.resolve_right hl'))
  has hl ho := h'.has (fun hl' => hl (.inr hl')) (h.has (fun hl' => hl (.inl hl')) ho)
  present hl ho := h'.present (fun hl' => hl (.inr hl')) (h.present (fun hl' => hl (.inl hl')) ho)

theorem Drops.congr {dropped dropped' : Blocklist → Prop} (h : Drops texts dropped c c')
    (hiff : ∀ l, dropped l ↔ dropped' l) : Drops texts dropped' c c' := by
  have heq : dropped = dropped' := funext fun l => propext (hiff l)
  exact heq ▸ h

theorem drops_removeEach (hs : c.Separate) (ht : c.Serves texts) (hlist : c.store.Listable c.disk)
    {lists : List Blocklist} (hsmooth : c.RemovesSmoothly (lists.map Blocklist.filename)) :
    Drops texts (· ∈ lists) c (c.removeEach (lists.map Blocklist.filename)).2 := by
  have hadmits : ∀ id ∈ lists.map Blocklist.filename, c.store.Admits id := by
    intro id hid
    obtain ⟨l, -, rfl⟩ := List.mem_map.1 hid
    exact l.admits _
  have htouch := touches_removeEach hadmits hs.tidy
  have hmem : ∀ {l : Blocklist}, l ∉ lists →
      l.filename ∉ {id | id ∈ lists.map Blocklist.filename} := by
    intro l hl hid
    obtain ⟨m, hm, heq⟩ := List.mem_map.1 hid
    exact hl (Blocklist.filename_injective heq ▸ hm)
  refine ⟨htouch.bundle, htouch.separate hs, htouch.serves hs ht, htouch.newest hs ht,
    ?_, ?_, ?_⟩
  · intro l hl
    exact lacks_removeEach hadmits hs.tidy hlist hsmooth _ (List.mem_map.2 ⟨l, hl, rfl⟩)
  · exact fun hl ho => htouch.has (hmem hl) ho
  · exact fun hl ho => fun hlacks => ho ((htouch.has_none_iff (hmem hl)).1 hlacks)

theorem drops_removeAll (hs : c.Separate) (ht : c.Serves texts) (hlist : c.store.Listable c.disk)
    (hsmooth : c.RemovesSmoothly c.installedIds) :
    Drops texts (fun _ => True) c c.removeAll.2 := by
  have htouch := touches_removeAll hs.tidy hlist.plain
  refine ⟨htouch.bundle, htouch.separate hs, htouch.serves hs ht, htouch.newest hs ht,
    ?_, ?_, ?_⟩
  · exact fun {l} _ => lacks_removeAll hs.tidy hlist hsmooth (l.admits _)
  · exact fun hl => absurd trivial hl
  · exact fun hl => absurd trivial hl

theorem drops_mark (hs : c.Separate) (ht : c.Serves texts) (date : Date) :
    Drops texts (fun _ => False) c (c.mark date) := by
  refine ⟨rfl, separate_mark hs date, serves_mark hs ht date, newest_mark hs ht date,
    False.elim, ?_, ?_⟩
  · exact fun _ ho => has_mark hs date ho
  · exact fun _ ho hlacks => ho ((has_none_mark_iff hs date).1 hlacks)

/-! ### Purging -/

/-- The store can be listed and emptied, unless the disk is to blame. -/
def PurgesSmoothly (c : Compiler) : Prop :=
  c.store.Listable c.disk ∧ c.RemovesSmoothly c.installedIds

/-- Either nothing happens, or the store is emptied and marked. -/
theorem purgeByDate_eq (c : Compiler) :
    (c.purgeByDate.1 = false ∧ c.purgeByDate.2 = c) ∨
      ∃ newest, c.newestBundleDate? = some newest ∧ c.isStale newest = true ∧
        c.purgeByDate = (true, c.removeAll.2.mark newest) := by
  rw [purgeByDate]
  cases hnewest : c.newestBundleDate? with
  | none => exact .inl ⟨rfl, rfl⟩
  | some newest =>
    by_cases hstale : c.isStale newest = true
    · refine .inr ⟨newest, rfl, hstale, ?_⟩
      simp only [if_pos hstale]
    · refine .inl ?_
      simp only [if_neg hstale, and_self]

theorem drops_purgeByDate (hs : c.Separate) (ht : c.Serves texts)
    (hsmooth : c.purgeByDate.1 = true → c.PurgesSmoothly) :
    Drops texts (fun _ => c.purgeByDate.1 = true) c c.purgeByDate.2 := by
  rcases purgeByDate_eq c with ⟨hfalse, hsame⟩ | ⟨newest, -, -, heq⟩
  · rw [hsame, hfalse]
    exact (Drops.refl hs ht).congr fun l => by simp
  · obtain ⟨hlist, hremove⟩ := hsmooth (by rw [heq])
    rw [heq]
    have hall := drops_removeAll hs ht hlist hremove
    exact (hall.trans (drops_mark hall.separate hall.serves newest)).congr fun l => by simp

theorem purgeByName_eq (c : Compiler) :
    ((∀ id ∈ c.installedIds, (Blocklist.ofFilename? id).isSome = true) ∧
        c.purgeByName = (false, c)) ∨
      c.purgeByName = (true, c.removeAll.2) := by
  rw [purgeByName]
  by_cases hall : (c.installedIds.all fun id => (Blocklist.ofFilename? id).isSome) = true
  · exact .inl ⟨List.all_eq_true.1 hall, if_pos hall⟩
  · exact .inr (if_neg hall)

theorem drops_purgeByName (hs : c.Separate) (ht : c.Serves texts)
    (hsmooth : c.purgeByName.1 = true → c.PurgesSmoothly) :
    Drops texts (fun _ => c.purgeByName.1 = true) c c.purgeByName.2 := by
  rcases purgeByName_eq c with ⟨-, heq⟩ | heq
  · rw [heq]
    exact (Drops.refl hs ht).congr fun l => by simp
  · obtain ⟨hlist, hremove⟩ := hsmooth (by rw [heq])
    rw [heq]
    exact (drops_removeAll hs ht hlist hremove).congr fun l => by simp

/-! ### Compilation -/

/-- The bundled texts are arrays of values. -/
def Readable (texts : Blocklist → String) : Prop :=
  ∀ l, ∃ items, RuleList.readItems.run (texts l) = .ok items

theorem exists_source (ht : c.Serves texts) (hr : Readable texts) (rules : AllowRules)
    (l : Blocklist) :
    ∃ source, c.source rules l = .ok source ∧
      RuleList.synthesize (texts l) (rules l.kind) l.isCosmetic = .ok source := by
  obtain ⟨items, hitems⟩ := hr l
  have hsynthesize := RuleList.synthesize_of_items hitems (rules l.kind) l.isCosmetic
  refine ⟨_, ?_, hsynthesize⟩
  rw [source, ht l]
  simp only [hsynthesize]

/-- What a list compiles to is what its source is read as. -/
theorem exists_source_compiled? (ht : c.Serves texts) (hr : Readable texts) (rules : AllowRules)
    (l : Blocklist) :
    ∃ source, c.source rules l = .ok source ∧
      l.compiled? (texts l) (rules l.kind) = (RuleList.ofText source).toOption := by
  obtain ⟨source, hsource, hsynthesize⟩ := exists_source ht hr rules l
  refine ⟨source, hsource, ?_⟩
  rw [Blocklist.compiled?, hsynthesize]

theorem compileList_eq {l : Blocklist} {source : String} (h : c.source rules l = .ok source) :
    c.compileList rules l = .ok ((c.store.compile l.filename source c.disk).1.isOk,
      { c with
        store := (c.store.compile l.filename source c.disk).2.1
        disk := (c.store.compile l.filename source c.disk).2.2 }) := by
  rw [compileList, h, ok_bind]
  split
  · next heq =>
    rw [heq]
    rfl
  · next heq =>
    rw [heq]
    rfl

/-- A compilation touches no other list, also if it fails. -/
theorem touches_compileList {l : Blocklist} {source : String} (hs : c.Separate)
    (hsource : c.source rules l = .ok source) {done : Bool}
    (h : c.compileList rules l = .ok (done, c')) : Touches {l.filename} c c' := by
  rw [compileList_eq hsource] at h
  obtain ⟨-, rfl⟩ := Prod.mk.inj (Except.ok.inj h)
  exact ⟨rfl, rfl, RuleStore.touches_compile l.listName_filename hs.tidy source⟩

/-- The compilation of a list does not fail because of the disk. -/
def CompilesListSmoothly (c : Compiler) (rules : AllowRules) (l : Blocklist) : Prop :=
  ∀ source, c.source rules l = .ok source →
    RuleStore.Smooth (c.store.compile l.filename source c.disk).1

/-- A list that was missing is what its bundled text compiles to. -/
theorem exists_compileList (hs : c.Separate) (ht : c.Serves texts) (hr : Readable texts)
    {l : Blocklist} (hsmooth : c.CompilesListSmoothly rules l) :
    ∃ c', c.compileList rules l =
        .ok ((l.compiled? (texts l) (rules l.kind)).isSome, c') ∧
      Touches {l.filename} c c' ∧
      (c.Has l none → c'.Has l (l.compiled? (texts l) (rules l.kind))) := by
  obtain ⟨source, hsource, hcompiled⟩ := exists_source_compiled? ht hr rules l
  rw [compileList_eq hsource, hcompiled]
  have hsmooth := hsmooth source hsource
  cases hcompile : c.store.compile l.filename source c.disk with
  | mk r rest =>
    obtain ⟨store, disk⟩ := rest
    cases r with
    | ok rs =>
      obtain ⟨hrs, hholds, htouch⟩ := RuleStore.compile_ok l.listName_filename hs.tidy hcompile
      rw [hrs]
      exact ⟨_, rfl, ⟨rfl, rfl, htouch⟩, fun _ => hholds⟩
    | error e =>
      obtain ⟨⟨cause, hcause⟩, rfl, rfl⟩ := RuleStore.compile_error hcompile hsmooth
      rw [hcause]
      exact ⟨_, rfl, ⟨rfl, rfl, .refl _ _ _⟩, fun hlacks => hlacks⟩

/-- No compilation fails because of the disk. -/
def CompilesSmoothly (c : Compiler) (rules : AllowRules) : List Blocklist → Prop
  | [] => True
  | l :: ls => c.CompilesListSmoothly rules l ∧
    ∀ done c', c.compileList rules l = .ok (done, c') → CompilesSmoothly c' rules ls

theorem filename_mem_iff {l : Blocklist} {ls : List Blocklist} :
    l.filename ∈ {id | id ∈ ls.map Blocklist.filename} ↔ l ∈ ls := by
  constructor
  · intro hmem
    obtain ⟨m, hm, heq⟩ := List.mem_map.1 hmem
    exact Blocklist.filename_injective heq ▸ hm
  · exact fun hl => List.mem_map.2 ⟨l, hl, rfl⟩

/-- What is known of each compilation is known of all of them.  `P` is what holds of the compiler
when some lists are still to be compiled, and `built` what a list that was missing becomes. -/
theorem exists_compileEach_of (rules : AllowRules) (P : List Blocklist → Compiler → Prop)
    (built : Blocklist → Option (List Rule))
    (hstep : ∀ {l : Blocklist} {ls : List Blocklist} {c : Compiler}, P (l :: ls) c →
      ∃ c', c.compileList rules l = .ok ((built l).isSome, c') ∧ Touches {l.filename} c c' ∧
        P ls c' ∧ (c.Has l none → c'.Has l (built l)))
    {ls : List Blocklist} (hnodup : ls.Nodup) (h : P ls c) :
    ∃ c', c.compileEach rules ls = .ok (ls.filter fun l => (built l).isSome, c') ∧
      Touches {id | id ∈ ls.map Blocklist.filename} c c' ∧ P [] c' ∧
      ∀ l ∈ ls, c.Has l none → c'.Has l (built l) := by
  induction ls generalizing c with
  | nil => exact ⟨c, rfl, .refl _ c, h, by simp⟩
  | cons l ls ih =>
    obtain ⟨hl, hnodup⟩ := List.nodup_cons.1 hnodup
    obtain ⟨c₁, hone, htouch, h₁, hhas⟩ := hstep h
    obtain ⟨c₂, hrest, htouches, h₂, hhave⟩ := ih hnodup h₁
    refine ⟨c₂, ?_, ?_, h₂, ?_⟩
    · rw [compileEach, hone, ok_bind]
      simp only [hrest, ok_bind]
      rw [List.filter_cons]
      rfl
    · refine (htouch.mono ?_).trans (htouches.mono ?_)
      · rintro id rfl
        exact List.mem_cons_self
      · exact fun id hid => List.mem_cons_of_mem _ hid
    · intro m hm hlacks
      by_cases hml : m = l
      · -- the list is compiled once, so the rest of the pass leaves it alone
        subst hml
        exact htouches.has (fun hmem => hl (filename_mem_iff.1 hmem)) (hhas hlacks)
      · have hmem := (List.mem_cons.1 hm).resolve_left hml
        refine hhave m hmem (htouch.has ?_ hlacks)
        exact fun heq => hml (Blocklist.filename_injective heq)

theorem exists_compileEach (hs : c.Separate) (ht : c.Serves texts) (hr : Readable texts)
    {ls : List Blocklist} (hnodup : ls.Nodup) (hsmooth : c.CompilesSmoothly rules ls) :
    ∃ c', c.compileEach rules ls =
        .ok (ls.filter fun l => (l.compiled? (texts l) (rules l.kind)).isSome, c') ∧
      Touches {id | id ∈ ls.map Blocklist.filename} c c' ∧
      ∀ l ∈ ls, c.Has l none → c'.Has l (l.compiled? (texts l) (rules l.kind)) := by
  have hall := exists_compileEach_of rules
    (fun ls c => c.Separate ∧ c.Serves texts ∧ c.CompilesSmoothly rules ls)
    (fun l => l.compiled? (texts l) (rules l.kind)) (fun {l ls c} ⟨hs, ht, hsmooth⟩ => by
      obtain ⟨c₁, hone, htouch, hhas⟩ := exists_compileList hs ht hr hsmooth.1
      exact ⟨c₁, hone, htouch, ⟨htouch.separate hs, htouch.serves hs ht, hsmooth.2 _ c₁ hone⟩,
        hhas⟩) hnodup ⟨hs, ht, hsmooth⟩
  obtain ⟨c', hcompile, htouch, -, hhas⟩ := hall
  exact ⟨c', hcompile, htouch, hhas⟩

/-! ### Missing lists -/

/-- The lists that are not in the store. -/
def missing (c : Compiler) : List Blocklist :=
  Blocklist.all.filter fun l => !c.installedLists.contains l

/-- Neither the listing nor a compilation of missing lists fails because of the disk. -/
def CompilesMissingSmoothly (c : Compiler) (rules : AllowRules) : Prop :=
  c.store.Listable c.disk ∧ c.CompilesSmoothly rules c.missing

theorem mem_installedLists_iff (hlist : c.store.Listable c.disk) {l : Blocklist} :
    l ∈ c.installedLists ↔ ¬c.Has l none := by
  rw [installedLists, List.mem_filter, List.contains_iff_mem,
    mem_installedIds_iff (l.admits _) hlist]
  exact and_iff_right l.mem_all

theorem mem_missing_iff (hlist : c.store.Listable c.disk) {l : Blocklist} :
    l ∈ c.missing ↔ c.Has l none := by
  rw [missing, List.mem_filter]
  simp only [Bool.not_eq_true', Bool.eq_false_iff, ne_eq, List.contains_iff_mem,
    mem_installedLists_iff hlist, not_not]
  exact and_iff_right l.mem_all

theorem nodup_all : Blocklist.all.Nodup := by decide

/-- Some lists in the order of the lists, and each of them once. -/
def InOrder (ls : List Blocklist) : Prop := ls = Blocklist.all.filter fun l => ls.contains l

theorem inOrder_filter (p : Blocklist → Bool) : InOrder (Blocklist.all.filter p) := by
  refine List.filter_congr fun l hl => ?_
  rw [Bool.eq_iff_iff, List.contains_iff_mem, List.mem_filter]
  exact (and_iff_right hl).symm

theorem InOrder.ext {ls ls' : List Blocklist} (h : InOrder ls) (h' : InOrder ls')
    (hmem : ∀ l, l ∈ ls ↔ l ∈ ls') : ls = ls' := by
  rw [h, h']
  refine List.filter_congr fun l _ => ?_
  rw [Bool.eq_iff_iff, List.contains_iff_mem, List.contains_iff_mem]
  exact hmem l

/-- Every list that was dropped or missing is what its bundled text compiles to, and every other
list is as it was.  The report says which is which. -/
structure Refreshed (texts : Blocklist → String) (rules : AllowRules) (dropped : Blocklist → Prop)
    (c : Compiler) (report : CompileReport) (c' : Compiler) : Prop where
  bundle : c'.bundle = c.bundle
  separate : c'.Separate
  serves : c'.Serves texts
  newest : c'.newestBundleDate? = c.newestBundleDate?
  fresh : ∀ {l : Blocklist}, dropped l ∨ c.Has l none →
    c'.Has l (l.compiled? (texts l) (rules l.kind))
  kept : ∀ {l : Blocklist} {o : Option (List Rule)}, ¬dropped l → ¬c.Has l none → c.Has l o →
    c'.Has l o
  present : ∀ {l : Blocklist}, ¬dropped l → ¬c.Has l none → ¬c'.Has l none
  compiled : ∀ {l : Blocklist}, l ∈ report.compiled ↔
    (dropped l ∨ c.Has l none) ∧ (l.compiled? (texts l) (rules l.kind)).isSome = true
  installed : ∀ {l : Blocklist}, l ∈ report.alreadyInstalled ↔ ¬(dropped l ∨ c.Has l none)
  failed : ∀ {l : Blocklist}, l ∈ report.failed ↔
    (dropped l ∨ c.Has l none) ∧ ¬(l.compiled? (texts l) (rules l.kind)).isSome = true
  ordered : InOrder report.compiled ∧ InOrder report.alreadyInstalled ∧ InOrder report.failed

section Report

variable {l : Blocklist} {installed compiled : List Blocklist}

theorem mem_compiled_report : l ∈ (report installed compiled).compiled ↔ l ∈ compiled := by
  simp only [report, List.mem_filter, List.contains_iff_mem, l.mem_all, true_and]

theorem mem_installed_report :
    l ∈ (report installed compiled).alreadyInstalled ↔ l ∈ installed := by
  simp only [report, List.mem_filter, List.contains_iff_mem, l.mem_all, true_and]

theorem mem_failed_report :
    l ∈ (report installed compiled).failed ↔ l ∉ compiled ∧ l ∉ installed := by
  simp only [report, List.mem_filter, Bool.and_eq_true, Bool.not_eq_true', Bool.eq_false_iff, ne_eq,
    List.contains_iff_mem, l.mem_all, true_and]

theorem inOrder_report : InOrder (report installed compiled).compiled ∧
    InOrder (report installed compiled).alreadyInstalled ∧
    InOrder (report installed compiled).failed :=
  ⟨inOrder_filter fun l => compiled.contains l, inOrder_filter fun l => installed.contains l,
    inOrder_filter fun l => !compiled.contains l && !installed.contains l⟩

end Report

theorem exists_compileMissing (hs : c.Separate) (ht : c.Serves texts) (hr : Readable texts)
    (hsmooth : c.CompilesMissingSmoothly rules) :
    ∃ report c', c.compileMissing rules = .ok (report, c') ∧ c'.markers = c.markers ∧
      Touches {id | id ∈ c.missing.map Blocklist.filename} c c' ∧
      Refreshed texts rules (fun _ => False) c report c' := by
  have hnodup : c.missing.Nodup := nodup_all.filter _
  obtain ⟨c', hcompile, htouch, hhas⟩ := exists_compileEach hs ht hr hnodup hsmooth.2
  have hmissing : c.compileMissing rules =
      .ok (report c.installedLists (c.missing.filter fun l =>
        (l.compiled? (texts l) (rules l.kind)).isSome), c') := by
    rw [missing] at hcompile ⊢
    rw [compileMissing]
    simp only [hcompile, ok_bind]
    rfl
  refine ⟨_, c', hmissing, htouch.markers, htouch, htouch.bundle, htouch.separate hs,
    htouch.serves hs ht, htouch.newest hs ht, ?_, ?_, ?_, ?_, ?_, ?_, ?_⟩
  · rintro l (hfalse | hlacks)
    · exact hfalse.elim
    · exact hhas l ((mem_missing_iff hsmooth.1).2 hlacks) hlacks
  · intro l o _ hlacks ho
    -- a list that was there is not among those that are compiled
    refine htouch.has ?_ ho
    rw [filename_mem_iff, mem_missing_iff hsmooth.1]
    exact hlacks
  · intro l _ hlacks
    rw [htouch.has_none_iff]
    · exact hlacks
    · rw [filename_mem_iff, mem_missing_iff hsmooth.1]
      exact hlacks
  · intro l
    rw [mem_compiled_report, List.mem_filter, mem_missing_iff hsmooth.1, false_or]
  · intro l
    rw [mem_installed_report, mem_installedLists_iff hsmooth.1, false_or]
  · intro l
    rw [mem_failed_report, List.mem_filter, mem_missing_iff hsmooth.1,
      mem_installedLists_iff hsmooth.1, false_or, not_not]
    tauto
  · exact inOrder_report

/-- What is missing after lists were dropped was dropped or missing before. -/
theorem Drops.has_none_iff {dropped : Blocklist → Prop} (hdrop : Drops texts dropped c c')
    {l : Blocklist} : c'.Has l none ↔ dropped l ∨ c.Has l none := by
  by_cases hl : dropped l
  · exact iff_of_true (hdrop.lacks hl) (.inl hl)
  · refine ⟨fun hnone => .inr ?_, fun hnone => hdrop.has hl (hnone.resolve_left hl)⟩
    by_contra hpresent
    exact hdrop.present hl hpresent hnone

theorem Refreshed.of_drops {dropped : Blocklist → Prop} {report : CompileReport}
    (hdrop : Drops texts dropped c c')
    (h : Refreshed texts rules (fun _ => False) c' report c'') :
    Refreshed texts rules dropped c report c'' := by
  have hlacks : ∀ {l : Blocklist}, c'.Has l none ↔ dropped l ∨ c.Has l none := hdrop.has_none_iff
  refine ⟨h.bundle.trans hdrop.bundle, h.separate, h.serves, h.newest.trans hdrop.newest,
    ?_, ?_, ?_, ?_, ?_, ?_, h.ordered⟩
  · exact fun hl => h.fresh (.inr (hlacks.2 hl))
  · intro l o hl hnone ho
    exact h.kept not_false (fun hnone' => (hlacks.1 hnone').elim hl hnone) (hdrop.has hl ho)
  · intro l hl hnone
    exact h.present not_false fun hnone' => (hlacks.1 hnone').elim hl hnone
  · intro l
    rw [h.compiled, false_or, hlacks]
  · intro l
    rw [h.installed, false_or, hlacks]
  · intro l
    rw [h.failed, false_or, hlacks]

/-- A list that is missing after a pass did not compile. -/
theorem Refreshed.has_none_iff {dropped : Blocklist → Prop} {report : CompileReport}
    (h : Refreshed texts rules dropped c report c') {l : Blocklist} :
    c'.Has l none ↔ l ∈ report.failed := by
  rw [h.failed]
  by_cases hfresh : dropped l ∨ c.Has l none
  · have hhas := h.fresh hfresh
    cases hcompiled : l.compiled? (texts l) (rules l.kind) with
    | none =>
      rw [hcompiled] at hhas
      exact iff_of_true hhas ⟨hfresh, by simp⟩
    | some rs =>
      rw [hcompiled] at hhas
      refine iff_of_false (fun hnone => ?_) (by simp)
      cases hhas.unique hnone
  · obtain ⟨hdrop, hpresent⟩ := not_or.1 hfresh
    exact iff_of_false (h.present hdrop hpresent) fun hfailed => hfresh hfailed.1

theorem Refreshed.not_failed_iff {dropped : Blocklist → Prop} {report : CompileReport}
    (h : Refreshed texts rules dropped c report c') {l : Blocklist} :
    l ∉ report.failed ↔ l ∈ report.compiled ∨ l ∈ report.alreadyInstalled := by
  rw [h.failed, h.compiled, h.installed]
  tauto

/-! ### Passes -/

/-- Nothing on the way of an invalidation fails because of the disk. -/
structure InvalidatesSmoothly (c : Compiler) (lists : List Blocklist) (rules : AllowRules) :
    Prop where
  listable : c.store.Listable c.disk
  removes : c.RemovesSmoothly (lists.map Blocklist.filename)
  compiles : (c.removeEach (lists.map Blocklist.filename)).2.CompilesMissingSmoothly rules

theorem markers_remove (c : Compiler) (id : String) : (c.remove id).2.markers = c.markers := by
  rw [remove_snd]

theorem markers_removeEach (c : Compiler) (ids : List String) :
    (c.removeEach ids).2.markers = c.markers := by
  induction ids generalizing c with
  | nil => rfl
  | cons id ids ih => exact (ih (c.remove id).2).trans (markers_remove c id)

/-- **Invalidated lists are compiled again**, and so are missing ones. -/
theorem exists_invalidate (hs : c.Separate) (ht : c.Serves texts) (hr : Readable texts)
    {lists : List Blocklist} (hsmooth : c.InvalidatesSmoothly lists rules) :
    ∃ report c', c.invalidate lists rules = .ok (report, c') ∧ c'.markers = c.markers ∧
      Refreshed texts rules (· ∈ lists) c report c' := by
  have hdrop := drops_removeEach hs ht hsmooth.listable hsmooth.removes
  obtain ⟨report, c', hcompile, hmarkers, -, hrefresh⟩ :=
    exists_compileMissing hdrop.separate hdrop.serves hr hsmooth.compiles
  exact ⟨report, c', hcompile, hmarkers.trans (markers_removeEach c _), hrefresh.of_drops hdrop⟩

/-- A startup drops all lists. -/
def Purges (c : Compiler) : Prop :=
  c.purgeByDate.1 = true ∨ c.purgeByDate.2.purgeByName.1 = true

/-- Nothing on the way of a startup fails because of the disk. -/
structure StartsSmoothly (c : Compiler) (rules : AllowRules) : Prop where
  byDate : c.purgeByDate.1 = true → c.PurgesSmoothly
  byName : c.purgeByDate.2.purgeByName.1 = true → c.purgeByDate.2.PurgesSmoothly
  compiles : c.purgeByDate.2.purgeByName.2.CompilesMissingSmoothly rules

theorem markers_purgeByName (c : Compiler) : c.purgeByName.2.markers = c.markers := by
  rcases purgeByName_eq c with ⟨-, heq⟩ | heq
  · rw [heq]
  · rw [heq]
    exact markers_removeEach c _

/-- **A startup compiles all lists that it drops or misses.** -/
theorem exists_startup (hs : c.Separate) (ht : c.Serves texts) (hr : Readable texts)
    (hsmooth : c.StartsSmoothly rules) :
    ∃ report c', c.startup rules = .ok (report, c') ∧ c'.markers = c.purgeByDate.2.markers ∧
      Touches {id | id ∈ c.purgeByDate.2.purgeByName.2.missing.map Blocklist.filename}
        c.purgeByDate.2.purgeByName.2 c' ∧
      Refreshed texts rules (fun _ => c.Purges) c report c' := by
  have hdate := drops_purgeByDate hs ht hsmooth.byDate
  have hname := drops_purgeByName hdate.separate hdate.serves hsmooth.byName
  obtain ⟨report, c', hcompile, hmarkers, htouch, hrefresh⟩ :=
    exists_compileMissing hname.separate hname.serves hr hsmooth.compiles
  exact ⟨report, c', hcompile, hmarkers.trans (markers_purgeByName _), htouch,
    hrefresh.of_drops (hdate.trans hname)⟩

end ContentBlocking.Compiler
