import ContentBlocking.Proofs.Disk.AllOrNothing
import ContentBlocking.Proofs.Disk.FileName
import ContentBlocking.Proofs.Rule.Synthesis
import ContentBlocking.Rule.Store

/-!
# What rule stores hold

A store either `RuleStore.Lacks` a list or has an entry for it, and it `RuleStore.Holds` the list
with its rules if the entry can be read.  The laws are the same for lists in memory and in a
directory: removing a list touches no other one (`RuleStore.touches_remove`), a list that was
compiled is held with its rules (`RuleStore.holds_of_compile`), and the listed identifiers are those
that the store does not lack (`RuleStore.mem_identifiers_iff`).
-/

namespace ContentBlocking

open FileTree (Confined)

namespace RuleStore

/-! ### Operations -/

section Operations

variable {t t' : FileTree}

theorem lookupIn_eq_ok_iff {dir id : String} {rules : List Rule} :
    lookupIn dir id t = .ok rules ↔
      ∃ text, t.readText (filePath dir id) = .ok text ∧ RuleList.read text = .ok rules := by
  rw [lookupIn]
  cases hread : t.readText (filePath dir id) with
  | error e => cases e <;> simp
  | ok text =>
    simp only [Except.ok.injEq, exists_eq_left']
    cases RuleList.read text <;> simp

theorem removeFrom_ok {dir id : String} (h : removeFrom dir id t = (.ok (), t')) :
    t.removeFile (filePath dir id) = .ok t' := by
  rw [removeFrom] at h
  split at h
  · next hremove =>
    rw [hremove, (Prod.mk.inj h).2]
  · cases h
  · cases h

theorem removeFrom_error {dir id : String} {e : StoreError}
    (h : removeFrom dir id t = (.error e, t')) : t' = t := by
  rw [removeFrom] at h
  split at h
  · cases h
  · exact (Prod.mk.inj h).2.symm
  · exact (Prod.mk.inj h).2.symm

theorem compileSource_eq_ok_iff {id source : String} {rules : List Rule} :
    compileSource id source = .ok rules ↔ RuleList.ofText source = .ok rules := by
  rw [compileSource]
  cases RuleList.ofText source <;> simp

/-- A source that is no rule list changes nothing. -/
theorem compile_of_error {id source : String} {cause : RuleError}
    (h : RuleList.ofText source = .error cause) (s : RuleStore) (t : FileTree) :
    s.compile id source t = (.error (.compile id cause), s, t) := by
  cases s with
  | directory dir => simp only [compile, compileInto, compileSource, h]
  | memory lists n => simp only [compile, compileSource, h]

end Operations

/-! ### Contents -/

/-- The directory of a store that has one. -/
def dir? : RuleStore → Option String
  | directory dir => some dir
  | memory .. => none

/-- The store has no entry for a list. -/
def Lacks (s : RuleStore) (t : FileTree) (id : String) : Prop :=
  match s with
  | directory dir => t.entry? (Path.place t.home (filePath dir id)) = none
  | memory lists _ => lists[id]? = none

/-- The store has a list with these rules. -/
def Holds (s : RuleStore) (t : FileTree) (id : String) (rules : List Rule) : Prop :=
  s.lookup id t = .ok rules

/-- The places of the entries of a directory. -/
def insideOf (home : Place) (dir : String) : Set Place :=
  {p | ∃ name, p = Path.place home dir ++ [name]}

/-- The places of the entries in the directory of a store. -/
def inside (s : RuleStore) (home : Place) : Set Place := s.dir?.elim ∅ (insideOf home)

/-- The places on the way to the directory of a store. -/
def way (s : RuleStore) (home : Place) : Set Place := s.dir?.elim ∅ (Path.way home)

/-- The path of the directory of a store does not lead through entries of that directory. -/
def Tidy (s : RuleStore) (home : Place) : Prop := ∀ p ∈ s.inside home, p ∉ s.way home

/-- An identifier that can stand in the name of a file. -/
structure IsId (id : String) : Prop where
  noSlash : '/' ∉ id.toList
  ne_empty : id.toList ≠ []

/-- An identifier of a list that can be compiled into a file. -/
structure ListName (id : String) : Prop extends IsId id where
  ne_dot : id.toList ≠ ['.']

/-- A store in memory admits every identifier, one in a directory those of files. -/
def Admits (s : RuleStore) (id : String) : Prop := s.dir?.isSome = true → IsId id

/-! ### Files of lists -/

theorem toList_fileName (id : String) :
    (id ++ "." ++ extension).toList = id.toList ++ '.' :: extension.toList := by
  rw [String.toList_append, String.toList_append, List.append_assoc]
  rfl

theorem getLast?_fileName (id : String) : (id ++ "." ++ extension).toList.getLast? = some 'n' := by
  rw [toList_fileName, List.getLast?_append]
  rfl

theorem plainName_fileName {id : String} (h : IsId id) :
    Path.PlainName (id ++ "." ++ extension) := by
  refine .of_getLast? ?_ (getLast?_fileName id) (by decide)
  rw [toList_fileName, List.mem_append, not_or]
  exact ⟨h.noSlash, by decide⟩

theorem splitName_fileName {id : String} (h : id.toList ≠ []) :
    Path.splitName (id ++ "." ++ extension).toList = (id.toList, some extension.toList) := by
  rw [toList_fileName]
  exact Path.splitName_append h (by decide)

theorem place_filePath {id : String} (h : IsId id) (home : Place) (dir : String) :
    Path.place home (filePath dir id) = Path.place home dir ++ [id ++ "." ++ extension] :=
  Path.place_join (plainName_fileName h) dir

theorem fileName_injective {id id' : String}
    (h : id ++ "." ++ extension = id' ++ "." ++ extension) : id = id' := by
  have hlist := congrArg String.toList h
  rw [toList_fileName, toList_fileName] at hlist
  exact String.toList_inj.1 (List.append_cancel_right hlist)

theorem place_filePath_ne {id id' : String} (h : IsId id) (h' : IsId id') (hne : id ≠ id')
    (home : Place) (dir : String) :
    Path.place home (filePath dir id) ≠ Path.place home (filePath dir id') := by
  rw [place_filePath h, place_filePath h']
  intro heq
  have hname := List.append_cancel_left heq
  exact hne (fileName_injective (List.singleton_inj.1 hname))

theorem replaceableName_fileName {id : String} (h : ListName id) :
    Path.ReplaceableName (id ++ "." ++ extension) where
  toPlainName := plainName_fileName h.toIsId
  ends := by
    intro c hc
    rw [getLast?_fileName] at hc
    obtain rfl : 'n' = c := Option.some.inj hc
    exact ⟨by decide, by decide⟩
  stem := by
    rw [splitName_fileName h.ne_empty]
    exact h.ne_dot

/-- The file that a list is first written to. -/
def besidePath (dir id : String) : String :=
  Path.withExtension (filePath dir id) (extension ++ ".tmp")

theorem stem_fileName {id : String} (h : id.toList ≠ []) :
    Path.stem (id ++ "." ++ extension) = id := by
  rw [Path.stem, splitName_fileName h, String.ofList_toList]

/-- The name of the file that a list is first written to. -/
def besideName (id : String) : String := id ++ "." ++ (extension ++ ".tmp")

theorem toList_besideName (id : String) :
    (besideName id).toList = id.toList ++ ('.' :: (extension ++ ".tmp").toList) := by
  rw [besideName, String.toList_append, String.toList_append, List.append_assoc]
  rfl

theorem getLast?_besideName (id : String) : (besideName id).toList.getLast? = some 'p' := by
  rw [toList_besideName, List.getLast?_append]
  rfl

theorem plainName_besideName {id : String} (h : ListName id) : Path.PlainName (besideName id) := by
  refine .of_getLast? ?_ (getLast?_besideName id) (by decide)
  rw [toList_besideName, List.mem_append, not_or]
  exact ⟨h.noSlash, by decide⟩

theorem besidePath_eq_join {id : String} (h : ListName id) (dir : String) :
    besidePath dir id = Path.join dir (besideName id) := by
  have hstem := stem_fileName h.ne_empty
  have := Path.withExtension_join (replaceableName_fileName h) (extension ++ ".tmp") (by decide)
    (by rw [hstem]; exact h.noSlash) dir
  rwa [hstem] at this

theorem place_besidePath {id : String} (h : ListName id) (home : Place) (dir : String) :
    Path.place home (besidePath dir id) = Path.place home dir ++ [besideName id] := by
  rw [besidePath_eq_join h]
  exact Path.place_join (plainName_besideName h) dir

theorem fileName_ne_besideName (id id' : String) : id ++ "." ++ extension ≠ besideName id' := by
  intro heq
  have hlast := getLast?_fileName id
  rw [heq, getLast?_besideName] at hlast
  revert hlast
  decide

theorem place_filePath_ne_beside {id id' : String} (h : IsId id) (h' : ListName id') (home : Place)
    (dir : String) :
    Path.place home (filePath dir id) ≠ Path.place home (besidePath dir id') := by
  rw [place_filePath h, place_besidePath h']
  intro heq
  exact fileName_ne_besideName id id' (List.singleton_inj.1 (List.append_cancel_left heq))

/-! ### What stays -/

variable {s s' s'' : RuleStore} {t t' t'' : FileTree} {ids ids' : Set String}

theorem Holds.not_lacks {id : String} {rules : List Rule} (h : s.Holds t id rules) :
    ¬s.Lacks t id := by
  cases s with
  | directory dir =>
    intro hlacks
    obtain ⟨text, hread, -⟩ := lookupIn_eq_ok_iff.1 h
    obtain ⟨p, date, hp, hentry⟩ := FileTree.readText_eq_ok_iff.1 hread
    obtain rfl := FileTree.eq_place_of_resolve hp
    rw [Lacks, hentry] at hlacks
    cases hlacks
  | memory lists n =>
    intro hlacks
    rw [Lacks] at hlacks
    simp [Holds, lookup, hlacks] at h

theorem Holds.unique {id : String} {rules rules' : List Rule} (h : s.Holds t id rules)
    (h' : s.Holds t id rules') : rules = rules' :=
  Except.ok.inj (h.symm.trans h')

/-- The names in the directory of a store have no slash, as those of files never do. -/
def Plain (s : RuleStore) (t : FileTree) : Prop :=
  ∀ dir, s.dir? = some dir → ∀ name, t.entry? (Path.place t.home dir ++ [name]) ≠ none →
    '/' ∉ name.toList

/-- An operation changes nothing but the lists in `ids` and files in the directory of the store. -/
structure Touches (ids : Set String) (s : RuleStore) (t : FileTree) (s' : RuleStore)
    (t' : FileTree) : Prop where
  dir : s'.dir? = s.dir?
  confined : Confined (s.way t.home) (s.inside t.home) t t'
  plain : s.Plain t → s'.Plain t'
  lacks : ∀ {id : String}, id ∉ ids → s.Admits id → s.Lacks t id → s'.Lacks t' id
  present : ∀ {id : String}, id ∉ ids → s.Admits id → ¬s.Lacks t id → ¬s'.Lacks t' id
  holds : ∀ {id : String} {rules : List Rule}, id ∉ ids → s.Admits id → s.Holds t id rules →
    s'.Holds t' id rules
  kept : ∀ {id dir : String} {e : Entry}, id ∉ ids → s.dir? = some dir → IsId id →
    t.entry? (Path.place t.home (filePath dir id)) = some e →
      t'.entry? (Path.place t.home (filePath dir id)) = some e

theorem inside_eq_of_dir? (h : s'.dir? = s.dir?) (home : Place) :
    s'.inside home = s.inside home := by
  rw [inside, inside, h]

theorem way_eq_of_dir? (h : s'.dir? = s.dir?) (home : Place) : s'.way home = s.way home := by
  rw [way, way, h]

theorem admits_of_dir? (h : s'.dir? = s.dir?) {id : String} (hid : s.Admits id) : s'.Admits id := by
  rw [Admits, h]
  exact hid

theorem Touches.tidy (h : Touches ids s t s' t') (ht : s.Tidy t.home) : s'.Tidy t'.home := by
  rw [Tidy, inside_eq_of_dir? h.dir, way_eq_of_dir? h.dir, h.confined.home]
  exact ht

protected theorem Touches.refl (ids : Set String) (s : RuleStore) (t : FileTree) :
    Touches ids s t s t where
  dir := rfl
  confined := .refl _ _ t
  plain := id
  lacks _ _ := id
  present _ _ := id
  holds _ _ := id
  kept _ _ _ := id

protected theorem Touches.trans (h : Touches ids s t s' t') (h' : Touches ids s' t' s'' t'') :
    Touches ids s t s'' t'' where
  dir := h'.dir.trans h.dir
  confined := by
    have hconfined := h'.confined
    rw [inside_eq_of_dir? h.dir, way_eq_of_dir? h.dir, h.confined.home] at hconfined
    exact h.confined.trans hconfined
  plain hp := h'.plain (h.plain hp)
  lacks hid hname hl := h'.lacks hid (admits_of_dir? h.dir hname) (h.lacks hid hname hl)
  present hid hname hl := h'.present hid (admits_of_dir? h.dir hname) (h.present hid hname hl)
  holds hid hname hr := h'.holds hid (admits_of_dir? h.dir hname) (h.holds hid hname hr)
  kept hid hdir hname he := by
    have he' := h.kept hid hdir hname he
    rw [← h.confined.home] at he' ⊢
    exact h'.kept hid (h.dir.trans hdir) hname he'

theorem Touches.mono (h : Touches ids s t s' t') (hids : ids ⊆ ids') : Touches ids' s t s' t' where
  dir := h.dir
  confined := h.confined
  plain := h.plain
  lacks hid := h.lacks fun hmem => hid (hids hmem)
  present hid := h.present fun hmem => hid (hids hmem)
  holds hid := h.holds fun hmem => hid (hids hmem)
  kept hid := h.kept fun hmem => hid (hids hmem)

/-- The place of a list in the directory of a store. -/
def placesOf (s : RuleStore) (home : Place) (id : String) : Set Place :=
  s.dir?.elim ∅ fun dir => {Path.place home (filePath dir id)}

theorem mem_inside_of_mem_placesOf {home : Place} {id : String} (hid : s.Admits id) {p : Place}
    (h : p ∈ s.placesOf home id) : p ∈ s.inside home := by
  cases s with
  | directory dir => exact ⟨_, (Set.mem_singleton_iff.1 h).trans (place_filePath (hid rfl) _ dir)⟩
  | memory lists n => exact h

theorem Holds.of_confined {made written : Set Place} (h : Confined made written t t') {id : String}
    {rules : List Rule} (hid : ∀ p ∈ s.placesOf t.home id, p ∉ written)
    (hr : s.Holds t id rules) : s.Holds t' id rules := by
  cases s with
  | directory dir =>
    obtain ⟨text, hread, hrules⟩ := lookupIn_eq_ok_iff.1 hr
    exact lookupIn_eq_ok_iff.2 ⟨text, h.readText_eq_ok (hid _ rfl) hread, hrules⟩
  | memory lists n => exact hr

theorem not_lacks_of_confined {made written : Set Place} (h : Confined made written t t')
    {id : String} (hwritten : ∀ p ∈ s.placesOf t.home id, p ∉ written) (hl : ¬s.Lacks t id) :
    ¬s.Lacks t' id := by
  cases s with
  | directory dir =>
    obtain ⟨e, he⟩ := Option.ne_none_iff_exists'.1 hl
    rw [Lacks, h.home, h.kept (hwritten _ rfl) he]
    exact Option.some_ne_none e
  | memory lists n => exact hl

theorem Lacks.of_confined {made written : Set Place} (h : Confined made written t t') {id : String}
    (hmade : ∀ p ∈ s.placesOf t.home id, p ∉ made)
    (hwritten : ∀ p ∈ s.placesOf t.home id, p ∉ written) (hl : s.Lacks t id) : s.Lacks t' id := by
  cases s with
  | directory dir =>
    rw [Lacks, h.home]
    exact h.absent (hmade _ rfl) (hwritten _ rfl) hl
  | memory lists n => exact hl

/-- Files that are no list in `ids` and no way to one may change. -/
theorem touches_of_confined {made written : Set Place} (hdir : s'.dir? = s.dir?)
    (h : Confined made written t t') (hmade : made ⊆ s.way t.home)
    (hwritten : written ⊆ s.inside t.home)
    (hplain : ∀ {q : Place} {name : String}, q ++ [name] ∈ written → '/' ∉ name.toList)
    (htidy : s.Tidy t.home)
    (hids : ∀ {id : String}, id ∉ ids → s.Admits id → ∀ p ∈ s.placesOf t.home id, p ∉ written)
    (hlacks : ∀ {id : String}, id ∉ ids → (s'.Lacks t' id ↔ s.Lacks t' id))
    (hholds : ∀ {id : String} {rules : List Rule}, id ∉ ids → s.Holds t' id rules →
      s'.Holds t' id rules) : Touches ids s t s' t' where
  dir := hdir
  confined := h.mono hmade hwritten
  plain hp dir hdir' name hentry := by
    rw [hdir] at hdir'
    rw [h.home] at hentry
    have hinside : Path.place t.home dir ++ [name] ∈ s.inside t.home := by
      rw [inside, hdir']
      exact ⟨name, rfl⟩
    by_cases hnew : Path.place t.home dir ++ [name] ∈ written
    · exact hplain hnew
    · refine hp dir hdir' name fun hnone => hentry (h.absent (fun hmade' => ?_) hnew hnone)
      exact htidy _ hinside (hmade hmade')
  lacks {id} hid hname hl := by
    refine (hlacks hid).2 (hl.of_confined h (fun p hp hp' => ?_) (hids hid hname))
    exact htidy p (mem_inside_of_mem_placesOf hname hp) (hmade hp')
  present {id} hid hname hl := by
    rw [hlacks hid]
    exact not_lacks_of_confined h (hids hid hname) hl
  holds hid hname hr := hholds hid (hr.of_confined h (hids hid hname))
  kept {id dir e} hid hdir hname he := by
    refine h.kept (hids hid (fun _ => hname) _ ?_) he
    rw [placesOf, hdir]
    rfl

/-! ### Removal -/

theorem getElem?_erase_of_ne {lists : Dict (List Rule)} {id id' : String} (h : id' ≠ id) :
    (lists.erase id)[id']? = lists[id']? := by
  rw [Std.ExtTreeMap.getElem?_erase, if_neg fun heq =>
    h (Std.LawfulEqCmp.compare_eq_iff_eq.1 heq).symm]

theorem getElem?_insert_of_ne {lists : Dict (List Rule)} {id id' : String} (h : id' ≠ id)
    (rules : List Rule) : (lists.insert id rules)[id']? = lists[id']? := by
  rw [Std.ExtTreeMap.getElem?_insert, if_neg fun heq =>
    h (Std.LawfulEqCmp.compare_eq_iff_eq.1 heq).symm]

/-- In memory the lists are touched that are looked up differently. -/
theorem touches_memory {lists lists' : Dict (List Rule)} {n n' : Nat} {ids : Set String}
    (h : ∀ id, id ∉ ids → lists'[id]? = lists[id]?) (htidy : (memory lists n).Tidy t.home) :
    Touches ids (memory lists n) t (memory lists' n') t := by
  refine touches_of_confined rfl (.refl ∅ ∅ t) (Set.empty_subset _) (Set.empty_subset _)
    (fun hq => absurd hq (Set.notMem_empty _)) htidy (fun _ _ _ _ hp => hp) ?_ ?_
  · intro id hid
    rw [Lacks, h id hid]
    rfl
  · intro id rules hid hr
    simp only [Holds, lookup, h id hid]
    exact hr

/-- **Removing a list touches no other list.** -/
theorem touches_remove {id : String} (hid : s.Admits id) (htidy : s.Tidy t.home) :
    Touches {id} s t (s.remove id t).2.1 (s.remove id t).2.2 := by
  cases s with
  | directory dir =>
    rw [remove]
    cases hr : removeFrom dir id t with
    | mk r t' =>
      cases r with
      | error e =>
        obtain rfl := removeFrom_error hr
        exact .refl _ _ t'
      | ok u =>
        have hconfined := FileTree.confined_removeFile (removeFrom_ok hr)
        refine touches_of_confined rfl hconfined (Set.empty_subset _) ?_ ?_ htidy ?_
          (fun _ => Iff.rfl) fun _ h => h
        · rintro p rfl
          exact ⟨_, place_filePath (hid rfl) _ dir⟩
        · intro q name hq
          rw [Set.mem_singleton_iff, place_filePath (hid rfl)] at hq
          rw [List.singleton_inj.1 (List.append_inj' hq rfl).2]
          exact (plainName_fileName (hid rfl)).noSlash
        · rintro id' hne hid' p rfl
          exact place_filePath_ne (hid' rfl) (hid rfl) hne _ dir
  | memory lists n =>
    rw [remove]
    split_ifs
    · exact touches_memory (fun id' hne => getElem?_erase_of_ne hne) htidy
    · exact .refl _ _ t

/-! ### Failures of the disk -/

/-- An outcome that is no failure of the disk. -/
def Smooth {α : Type} (r : Except StoreError α) : Prop := ∀ id cause, r ≠ .error (.io id cause)

/-- The directory of a store can be listed, which gives names, or there is nothing in its place. -/
def Listable (s : RuleStore) (t : FileTree) : Prop :=
  match s with
  | directory dir =>
    (∃ names, t.list dir = .ok names ∧ ∀ name ∈ names, '/' ∉ name.toList) ∨
      ∀ name, t.entry? (Path.place t.home dir ++ [name]) = none
  | memory .. => True

/-- A file that is not found in a directory that can be listed is not there. -/
theorem lacks_of_notFound {dir id : String} (hid : IsId id) (hlist : (directory dir).Listable t)
    (h : t.removeFile (filePath dir id) = .error .notFound) : (directory dir).Lacks t id := by
  rcases hlist with ⟨names, hnames, -⟩ | hnone
  · obtain ⟨hresolve, hentry, -⟩ := FileTree.list_eq_ok hnames
    rw [FileTree.removeFile] at h
    cases hplace : t.resolve (filePath dir id) with
    | error e =>
      rw [hplace] at h
      obtain rfl := Except.error.inj h
      exact absurd hplace
        (FileTree.resolve_join_ne_notFound hresolve hentry (plainName_fileName hid))
    | ok p =>
      rw [hplace, ok_bind] at h
      obtain rfl := FileTree.eq_place_of_resolve hplace
      split at h
      · next hentry => exact hentry
      · cases h
      · cases h
  · rw [Lacks, place_filePath hid]
    exact hnone _

/-- **A list that was removed or not found is not there.** -/
theorem lacks_remove {id : String} (hid : s.Admits id) (hlist : s.Listable t)
    (hsmooth : Smooth (s.remove id t).1) : (s.remove id t).2.1.Lacks (s.remove id t).2.2 id := by
  cases s with
  | directory dir =>
    cases hremove : t.removeFile (filePath dir id) with
    | ok t' =>
      have hnone := FileTree.entryAt_removeFile hremove
      rw [← (FileTree.confined_removeFile hremove).home] at hnone
      simp only [remove, removeFrom, hremove]
      exact hnone
    | error e =>
      by_cases he : e = .notFound
      · subst he
        simp only [remove, removeFrom, hremove]
        exact lacks_of_notFound (hid rfl) hlist hremove
      · have hio : ((directory dir).remove id t).1 = .error (.io id e) := by
          simp only [remove, removeFrom, hremove]
        exact absurd hio (hsmooth _ _)
  | memory lists n =>
    rw [remove]
    split_ifs with hcontains
    · exact Std.ExtTreeMap.getElem?_erase_self
    · rw [Std.ExtTreeMap.contains_eq_isSome_getElem?, Option.not_isSome_iff_eq_none] at hcontains
      exact hcontains

/-! ### Compilation -/

/-- A compilation that does not succeed changes nothing, unless the disk fails. -/
theorem compile_error {id source : String} {e : StoreError}
    (h : s.compile id source t = (.error e, s', t')) (hsmooth : Smooth (s.compile id source t).1) :
    (∃ cause, RuleList.ofText source = .error cause) ∧ s' = s ∧ t' = t := by
  rw [h] at hsmooth
  have hsource : ∀ {cause}, compileSource id source = .error cause →
      ∃ cause, RuleList.ofText source = .error cause := by
    intro cause hcause
    cases hrules : RuleList.ofText source with
    | error cause => exact ⟨cause, rfl⟩
    | ok rules =>
      rw [compileSource_eq_ok_iff.2 hrules] at hcause
      cases hcause
  cases s with
  | directory dir =>
    simp only [compile, compileInto] at h
    split at h
    · next cause hcause =>
      obtain ⟨-, rfl, rfl⟩ := by simpa using h
      exact ⟨hsource hcause, rfl, rfl⟩
    · split at h
      · obtain ⟨rfl, -⟩ := by simpa using h
        exact absurd rfl (hsmooth _ _)
      · split at h
        · obtain ⟨rfl, -⟩ := by simpa using h
          exact absurd rfl (hsmooth _ _)
        · simp at h
  | memory lists n =>
    rw [compile] at h
    split at h
    · simp at h
    · next cause hcause =>
      obtain ⟨-, rfl, rfl⟩ := by simpa using h
      exact ⟨hsource hcause, rfl, rfl⟩

/-- A list that is valid is compiled by replacing its file. -/
theorem compileInto_eq {source : String} {rules : List Rule}
    (hrules : RuleList.ofText source = .ok rules) (dir id : String) (t : FileTree) :
    compileInto dir id source t =
      match t.replaceTextBelow dir (besidePath dir id) (filePath dir id) (RuleList.text rules) with
      | (.error e, t') => (.error (.io id e), t')
      | (.ok (), t') => (.ok rules, t') := by
  rw [FileTree.replaceTextBelow, compileInto, compileSource_eq_ok_iff.2 hrules]
  obtain ⟨r, t₁⟩ := t.createDirectories dir
  cases r with
  | error e => rfl
  | ok u =>
    rcases hreplace : t₁.replaceText (besidePath dir id) (filePath dir id) (RuleList.text rules)
      with ⟨r, t₂⟩
    rw [besidePath] at hreplace
    cases r <;> simp only [besidePath, hreplace]

theorem compileInto_ok {dir id source : String} {rules : List Rule}
    (h : compileInto dir id source t = (.ok rules, t')) :
    RuleList.ofText source = .ok rules ∧ lookupIn dir id t' = .ok rules := by
  simp only [compileInto] at h
  split at h
  · simp at h
  · next rules' hsource =>
    split at h
    · simp at h
    · next t₁ hcreate =>
      split at h
      · simp at h
      · next t₂ hreplace =>
        obtain ⟨rfl, rfl⟩ := by simpa using h
        exact ⟨compileSource_eq_ok_iff.1 hsource, lookupIn_eq_ok_iff.2
          ⟨_, FileTree.readText_replaceText hreplace, RuleList.read_text rules'⟩⟩

theorem compileInto_eq_ok_iff {dir id source : String} {rules : List Rule} :
    compileInto dir id source t = (.ok rules, t') ↔ RuleList.ofText source = .ok rules ∧
      t.replaceTextBelow dir (besidePath dir id) (filePath dir id) (RuleList.text rules) =
        (.ok (), t') := by
  constructor
  · intro h
    have hrules := (compileInto_ok h).1
    rw [compileInto_eq hrules] at h
    refine ⟨hrules, ?_⟩
    split at h
    · simp at h
    · next heq =>
      obtain rfl := (Prod.mk.inj h).2
      exact heq
  · rintro ⟨hrules, h⟩
    rw [compileInto_eq hrules, h]

/-- The files that a compilation into a directory writes are those of its list. -/
theorem touches_of_writtenBy {dir id : String} (hid : ListName id)
    (htidy : (directory dir).Tidy t.home)
    (h : Confined (Path.way t.home dir)
      (FileTree.writtenBy t.home (besidePath dir id) (filePath dir id)) t t') :
    Touches {id} (directory dir) t (directory dir) t' := by
  refine touches_of_confined rfl h (Set.Subset.refl _) ?_ ?_ htidy ?_
    (fun _ => Iff.rfl) fun _ h => h
  · intro p hp
    rcases hp with hp | hp
    · exact ⟨_, hp.trans (place_besidePath hid _ dir)⟩
    · exact ⟨_, hp.trans (place_filePath hid.toIsId _ dir)⟩
  · intro q name hq
    rcases hq with hq | hq
    · have hsame := hq.trans (place_besidePath hid _ dir)
      rw [List.singleton_inj.1 (List.append_inj' hsame rfl).2]
      exact (plainName_besideName hid).noSlash
    · have hsame := hq.trans (place_filePath hid.toIsId _ dir)
      rw [List.singleton_inj.1 (List.append_inj' hsame rfl).2]
      exact (plainName_fileName hid.toIsId).noSlash
  · intro id' hne hid' p hp hwritten
    rcases hwritten with hwritten | hwritten
    · exact place_filePath_ne_beside (hid' rfl) hid _ dir (hp.symm.trans hwritten)
    · exact place_filePath_ne (hid' rfl) hid.toIsId hne _ dir (hp.symm.trans hwritten)

/-- A compilation into a directory writes the files of its list only, also if it fails. -/
theorem confined_compileInto (dir id source : String) (t : FileTree) :
    Confined (Path.way t.home dir)
      (FileTree.writtenBy t.home (besidePath dir id) (filePath dir id)) t
      (compileInto dir id source t).2 := by
  cases hrules : RuleList.ofText source with
  | error cause =>
    have hsource : compileSource id source = .error (.compile id cause) := by
      rw [compileSource, hrules]
    rw [compileInto, hsource]
    exact .refl _ _ t
  | ok rules =>
    have hwrite := FileTree.confined_replaceTextBelow t dir (besidePath dir id) (filePath dir id)
      (RuleList.text rules)
    rw [compileInto_eq hrules]
    split <;> next heq => rwa [heq] at hwrite

/-- **A compilation touches no other list**, also if it fails. -/
theorem touches_compile {id : String} (hid : ListName id) (htidy : s.Tidy t.home)
    (source : String) : Touches {id} s t (s.compile id source t).2.1 (s.compile id source t).2.2 := by
  cases s with
  | directory dir => exact touches_of_writtenBy hid htidy (confined_compileInto dir id source t)
  | memory lists n =>
    rw [compile]
    split
    · exact touches_memory (fun id' hne => getElem?_insert_of_ne hne _) htidy
    · exact .refl _ _ _

/-- **A list that was compiled is held with its rules, and no other list is touched.** -/
theorem compile_ok {id source : String} {rules : List Rule} (hid : ListName id)
    (htidy : s.Tidy t.home) (h : s.compile id source t = (.ok rules, s', t')) :
    RuleList.ofText source = .ok rules ∧ s'.Holds t' id rules ∧ Touches {id} s t s' t' := by
  have htouch := touches_compile hid htidy source
  rw [h] at htouch
  cases s with
  | directory dir =>
    rw [compile] at h
    cases hinto : compileInto dir id source t with
    | mk r t₁ =>
      rw [hinto] at h
      obtain ⟨rfl, rfl, rfl⟩ := by simpa using h
      obtain ⟨hrules, hholds⟩ := compileInto_ok hinto
      exact ⟨hrules, hholds, htouch⟩
  | memory lists n =>
    rw [compile] at h
    split at h
    · next hsource =>
      obtain ⟨rfl, rfl, rfl⟩ := by simpa using h
      refine ⟨compileSource_eq_ok_iff.1 hsource, ?_, htouch⟩
      simp only [Holds, lookup, Std.ExtTreeMap.getElem?_insert_self]
    · simp at h

/-! ### Listing -/

theorem mem_identifiersIn_iff {dir id : String} {ids : List String} {names : List String}
    (hnames : t.list dir = .ok names) (hids : identifiersIn dir t = .ok ids) :
    id ∈ ids ↔ ∃ name ∈ names, Path.extension? name = some extension ∧ Path.stem name = id := by
  simp only [identifiersIn, hnames, Except.ok.injEq] at hids
  subst hids
  rw [List.mem_mergeSort, List.mem_map]
  simp only [List.mem_filter, beq_iff_eq, and_assoc]

theorem eq_fileName_of_extension? {name : String} (h : Path.extension? name = some extension) :
    name = Path.stem name ++ "." ++ extension ∧ (Path.stem name).toList ≠ [] := by
  obtain ⟨ext, hext, heq⟩ := Option.map_eq_some_iff.1 h
  obtain ⟨hname, hstem⟩ := Path.eq_of_splitName (Prod.ext rfl hext)
  rw [Path.stem, String.toList_ofList]
  refine ⟨?_, hstem⟩
  rw [← String.toList_inj, toList_fileName, String.toList_ofList, ← heq, String.toList_ofList]
  exact hname

theorem Listable.plain (hlist : s.Listable t) : s.Plain t := by
  intro dir hdir name hentry
  cases s with
  | directory dir' =>
    obtain rfl : dir' = dir := Option.some.inj hdir
    rcases hlist with ⟨names, hnames, hslash⟩ | hnone
    · obtain ⟨-, -, rfl⟩ := FileTree.list_eq_ok hnames
      exact hslash name (FileTree.mem_children_iff.2 hentry)
    · exact absurd (hnone name) hentry
  | memory lists n => cases hdir

/-- **A stored list that is not touched is looked up as before**, also if it cannot be read. -/
theorem Touches.lookup (h : Touches ids s t s' t') (hlist : s.Listable t) {id : String}
    (hid : id ∉ ids) (hname : s.Admits id) (hpresent : ¬s.Lacks t id) :
    s'.lookup id t' = s.lookup id t := by
  cases s with
  | directory dir =>
    have hdir : s'.dir? = some dir := h.dir
    obtain rfl : s' = directory dir := by
      cases s' with
      | directory dir' => exact congrArg directory (Option.some.inj hdir)
      | memory lists n => cases hdir
    obtain ⟨e, he⟩ := Option.ne_none_iff_exists'.1 hpresent
    rcases hlist with ⟨names, hnames, -⟩ | hnone
    · obtain ⟨hresolve, hentry, -⟩ := FileTree.list_eq_ok hnames
      have hread := h.confined.readText_join hresolve hentry
        (plainName_fileName (hname rfl)).noSlash
        ((h.kept hid rfl (hname rfl) he).trans he.symm)
      rw [RuleStore.lookup, RuleStore.lookup, lookupIn, lookupIn, filePath, hread]
    · rw [Lacks, place_filePath (hname rfl)] at hpresent
      exact absurd (hnone _) hpresent
  | memory lists n =>
    obtain ⟨rules, hrules⟩ := Option.ne_none_iff_exists'.1 hpresent
    have hlookup : (memory lists n).lookup id t = .ok rules := by rw [RuleStore.lookup, hrules]
    rw [hlookup]
    exact h.holds hid hname hlookup

/-- What is listed is admitted and in the store. -/
theorem of_mem_identifiers {id : String} {ids : List String} (hplain : s.Plain t)
    (hids : s.identifiers t = .ok ids) (h : id ∈ ids) : s.Admits id ∧ ¬s.Lacks t id := by
  cases s with
  | directory dir =>
    cases hnames : t.list dir with
    | ok names =>
      obtain ⟨name, hname, hext, rfl⟩ := (mem_identifiersIn_iff hnames hids).1 h
      obtain ⟨heq, hne⟩ := eq_fileName_of_extension? hext
      obtain ⟨-, -, rfl⟩ := FileTree.list_eq_ok hnames
      have hentry := FileTree.mem_children_iff.1 hname
      have hid : IsId (Path.stem name) := by
        refine ⟨fun hslash => hplain dir rfl name hentry ?_, hne⟩
        rw [heq, toList_fileName]
        exact List.mem_append_left _ hslash
      refine ⟨fun _ => hid, ?_⟩
      rw [Lacks, place_filePath hid, ← heq]
      exact hentry
    | error e =>
      rw [identifiers, identifiersIn, hnames] at hids
      cases e <;> cases hids
      cases h
  | memory lists n =>
    obtain rfl := Except.ok.inj hids
    refine ⟨fun hdir => Bool.noConfusion hdir, ?_⟩
    rwa [Std.ExtTreeMap.mem_keys, Std.ExtTreeMap.mem_iff_isSome_getElem?,
      Option.isSome_iff_ne_none] at h

/-- **A store that can be listed lists what it does not lack.** -/
theorem mem_identifiers_iff {id : String} {ids : List String} (hid : s.Admits id)
    (hlist : s.Listable t) (hids : s.identifiers t = .ok ids) : id ∈ ids ↔ ¬s.Lacks t id := by
  refine ⟨fun h => (of_mem_identifiers hlist.plain hids h).2, fun hpresent => ?_⟩
  cases s with
  | directory dir =>
    have hne := (hid rfl).ne_empty
    rw [Lacks, place_filePath (hid rfl)] at hpresent
    rw [identifiers] at hids
    rcases hlist with ⟨names, hnames, -⟩ | hnone
    · obtain ⟨-, -, rfl⟩ := FileTree.list_eq_ok hnames
      refine (mem_identifiersIn_iff hnames hids).2
        ⟨_, FileTree.mem_children_iff.2 hpresent, ?_, stem_fileName hne⟩
      rw [Path.extension?, splitName_fileName hne]
      rfl
    · exact absurd (hnone _) hpresent
  | memory lists n =>
    obtain rfl := Except.ok.inj hids
    rwa [Std.ExtTreeMap.mem_keys, Std.ExtTreeMap.mem_iff_isSome_getElem?,
      Option.isSome_iff_ne_none]

theorem lacks_of_identifiers_error {id : String} {e : StoreError} (hid : s.Admits id)
    (hlist : s.Listable t) (h : s.identifiers t = .error e) : s.Lacks t id := by
  cases s with
  | directory dir =>
    rcases hlist with ⟨names, hnames, -⟩ | hnone
    · simp [identifiers, identifiersIn, hnames] at h
    · rw [Lacks, place_filePath (hid rfl)]
      exact hnone _
  | memory lists n => cases h

/-- A store that could be listed before a removal can be listed after it. -/
theorem listable_remove {id : String} (hid : s.Admits id) (hlist : s.Listable t) :
    (s.remove id t).2.1.Listable (s.remove id t).2.2 := by
  cases s with
  | directory dir =>
    cases hremove : t.removeFile (filePath dir id) with
    | error e =>
      have hsame : ((directory dir).remove id t).2.2 = t := by
        simp only [remove, removeFrom, hremove]
        cases e <;> rfl
      rw [hsame]
      exact hlist
    | ok t' =>
      have hsame : ((directory dir).remove id t).2.2 = t' := by
        simp only [remove, removeFrom, hremove]
      rw [hsame]
      rcases hlist with ⟨names, hnames, hslash⟩ | hnone
      · have hlist' := (FileTree.confined_removeFile hremove).list_eq_ok hnames
        obtain ⟨-, -, rfl⟩ := FileTree.list_eq_ok hnames
        refine .inl ⟨_, hlist', fun name hname => hslash name ?_⟩
        have hentry := FileTree.mem_children_iff.1 hname
        exact FileTree.mem_children_iff.2 (FileTree.entry_of_removeFile hremove hentry)
      · obtain ⟨⟨content, date, hentry⟩, -⟩ := FileTree.removeFile_eq_ok hremove
        rw [place_filePath (hid rfl), hnone] at hentry
        cases hentry
  | memory lists n =>
    rw [remove]
    split_ifs <;> trivial

/-! ### Stores whose directory is there -/

/-- The directory of a store, if it has one, is there. -/
def Rooted (s : RuleStore) (t : FileTree) : Prop :=
  ∀ dir, s.dir? = some dir → t.stat dir = .ok .directory

theorem Rooted.listable (h : s.Rooted t) (hplain : s.Plain t) : s.Listable t := by
  cases s with
  | directory dir =>
    refine .inl ⟨_, FileTree.list_of_directory (h dir rfl), fun name hname => ?_⟩
    exact hplain dir rfl name (FileTree.mem_children_iff.1 hname)
  | memory lists n => trivial

theorem Touches.rooted (h : Touches ids s t s' t') (hrooted : s.Rooted t) : s'.Rooted t' := by
  intro dir hdir
  rw [h.dir] at hdir
  exact h.confined.stat_directory (hrooted dir hdir)

theorem rooted_of_mem_identifiers {id : String} {ids : List String}
    (hids : s.identifiers t = .ok ids) (h : id ∈ ids) : s.Rooted t := by
  rintro dir hdir
  cases s with
  | directory dir' =>
    obtain rfl : dir' = dir := Option.some.inj hdir
    cases hnames : t.list dir' with
    | ok names =>
      obtain ⟨hp, hentry, -⟩ := FileTree.list_eq_ok hnames
      exact FileTree.stat_eq_ok_iff.2 ⟨_, hp, hentry⟩
    | error e =>
      rw [identifiers, identifiersIn, hnames] at hids
      cases e <;> cases hids
      cases h
  | memory lists n => cases hdir

/-- A list can only be read through the directory of the store, unless the files of the store are
named without one. -/
theorem rooted_of_holds {id : String} {rules : List Rule} (hid : s.Admits id)
    (hdir : s.dir? ≠ some "") (h : s.Holds t id rules) : s.Rooted t := by
  intro dir hsome
  cases s with
  | directory dir' =>
    obtain rfl : dir' = dir := Option.some.inj hsome
    obtain ⟨text, hread, -⟩ := lookupIn_eq_ok_iff.1 h
    obtain ⟨p, date, hp, -⟩ := FileTree.readText_eq_ok_iff.1 hread
    have hempty : dir'.isEmpty = false := by
      rw [Bool.eq_false_iff, ne_eq, String.isEmpty_iff]
      rintro rfl
      exact hdir rfl
    exact FileTree.stat_of_resolve_join hempty (plainName_fileName (hid rfl)).noSlash hp
  | memory lists n => cases hsome

end RuleStore

end ContentBlocking
