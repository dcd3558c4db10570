import ContentBlocking.Proofs.Disk.Directory
import ContentBlocking.Proofs.Keys
import ContentBlocking.Proofs.Rule.Store
import Mathlib.Data.List.Sort

/-!
# A directory of lists mirrors the lists in memory

A store in a directory and one in memory serve the same requests.  `RuleStore.Mirrors` says which
files the directory has for some lists: one for each list, with its text, and nothing else.  Every
request keeps that (`RuleStore.Keeps.answer`), and it gets the answer that the lists in memory give,
so two stores that start without lists agree on every sequence of requests
(`RuleStore.serve_directory_eq_iff`).

One identifier is an exception.  The file `..json` of the list `.` has the stem `.`, so the file
beside it has the path `..`, which is a directory: valid lists with that identifier are accepted in
memory and cannot be compiled into a directory.
-/

namespace ContentBlocking.RuleStore

open FileTree (HasRoom IsPart)

/-! ### Requests -/

/-- What a store is asked for. -/
inductive Request
  | compile (id source : String)
  | lookup (id : String)
  | remove (id : String)
  | identifiers

/-- What a store answers. -/
inductive Answer
  | rules (r : Except StoreError (List Rule))
  | removed (r : Except StoreError Unit)
  | identifiers (r : Except StoreError (List String))

/-- The answer to a request, and the store and the disk after it. -/
def answer (s : RuleStore) (t : FileTree) : Request → Answer × RuleStore × FileTree
  | .compile id source =>
    let (r, s, t) := s.compile id source t
    (.rules r, s, t)
  | .lookup id => (.rules (s.lookup id t), s, t)
  | .remove id =>
    let (r, s, t) := s.remove id t
    (.removed r, s, t)
  | .identifiers => (.identifiers (s.identifiers t), s, t)

/-- The answers to some requests, one after the other, and the store and the disk after them. -/
def serve (s : RuleStore) (t : FileTree) : List Request → List Answer × RuleStore × FileTree
  | [] => ([], s, t)
  | r :: requests =>
    let (a, s, t) := s.answer t r
    let (as, s, t) := serve s t requests
    (a :: as, s, t)

/-- The greatest number of bytes in the identifiers whose files have names that are not too long. -/
def maxIdLength : ℕ := 246

/-- An identifier whose files a directory can have. -/
structure FileId (id : String) : Prop extends IsId id where
  noNul : '\x00' ∉ id.toList
  short : id.utf8ByteSize ≤ maxIdLength

/-- The identifier of a request is one of files. -/
def Request.Admissible : Request → Prop
  | compile id _ => FileId id
  | lookup id => FileId id
  | remove id => FileId id
  | identifiers => True

/-- The request is to compile a valid list under the identifier of a single dot. -/
def Request.CompilesDot : Request → Prop
  | compile id source => id = "." ∧ ∃ rules, RuleList.ofText source = .ok rules
  | _ => False

/-! ### Names of files -/

theorem FileId.isPart_fileName {id : String} (h : FileId id) : IsPart (id ++ "." ++ extension) where
  noSlash := (plainName_fileName h.toIsId).noSlash
  noNul := by
    rw [toList_fileName, List.mem_append, not_or]
    exact ⟨h.noNul, by decide⟩
  short := by
    have hshort := h.short
    have hdot : ("." : String).utf8ByteSize = 1 := rfl
    have hext : extension.utf8ByteSize = 4 := rfl
    rw [String.utf8ByteSize_append, String.utf8ByteSize_append, hdot, hext]
    simp only [maxIdLength, FileTree.maxNameLength] at hshort ⊢
    omega

theorem FileId.isPart_besideName {id : String} (h : FileId id) : IsPart (besideName id) where
  noSlash := by
    rw [toList_besideName, List.mem_append, not_or]
    exact ⟨h.noSlash, by decide⟩
  noNul := by
    rw [toList_besideName, List.mem_append, not_or]
    exact ⟨h.noNul, by decide⟩
  short := by
    have hshort := h.short
    have hdot : ("." : String).utf8ByteSize = 1 := rfl
    have hext : (extension ++ ".tmp").utf8ByteSize = 8 := rfl
    rw [besideName, String.utf8ByteSize_append, String.utf8ByteSize_append, hdot, hext]
    simp only [maxIdLength, FileTree.maxNameLength] at hshort ⊢
    omega

theorem FileId.listName {id : String} (h : FileId id) (hdot : id ≠ ".") : ListName id where
  toIsId := h.toIsId
  ne_dot := fun heq => hdot (String.toList_inj.1 heq)

/-- The file beside that of the single dot is the directory above. -/
theorem besidePath_dot (dir : String) : besidePath dir "." = Path.join dir ".." := by
  have hname : ("." ++ "." ++ extension).toList = "..jso".toList ++ ['n'] := rfl
  have hfile : (filePath dir ".").toList = Path.base dir ++ ("..jso".toList ++ ['n']) := by
    rw [filePath, Path.toList_join (by decide), hname]
  have hsplit : Path.splitLast (filePath dir ".").toList =
      (Path.base dir, "..jso".toList ++ ['n']) := by
    rw [hfile]
    exact Path.splitLast_append (Path.base_eq dir) (by decide) ⟨by decide, by decide⟩
  have hstem : Path.splitName ("..jso".toList ++ ['n']) = (['.'], some extension.toList) := by
    decide
  have hisName : Path.isName ("..jso".toList ++ ['n']) = true := by decide
  rw [besidePath, Path.withExtension, hsplit]
  simp only [hstem, hisName, Bool.not_true, Bool.false_eq_true, if_false, ← hfile,
    Option.isSome_some, true_and, if_true]
  rw [← String.toList_inj, Path.toList_join (by decide), String.toList_ofList]
  rfl

/-! ### Files and lists -/

/-- The files of a directory are those of some lists. -/
structure Mirrors (dir : String) (t : FileTree) (lists : Dict (List Rule)) : Prop where
  present : t.stat dir = .ok .directory
  above : t.entry? (Path.place t.home dir).dropLast = some .directory
  stored : ∀ {id : String} {rules : List Rule}, lists[id]? = some rules →
    ∃ date, t.entry? (Path.place t.home dir ++ [id ++ "." ++ extension]) =
      some (.file (.text (RuleList.text rules)) date)
  only : ∀ {name : String}, t.entry? (Path.place t.home dir ++ [name]) ≠ none →
    ∃ id rules, lists[id]? = some rules ∧ name = id ++ "." ++ extension
  ids : ∀ {id : String} {rules : List Rule}, lists[id]? = some rules → IsId id

/-- A directory has the files of some lists, or there are no lists and the directory is missing and
can be made. -/
structure Keeps (dir : String) (t : FileTree) (lists : Dict (List Rule)) : Prop where
  room : HasRoom dir
  nonempty : dir.isEmpty = false
  made : ∃ t', t.createDirectories dir = (.ok (), t') ∧ Mirrors dir t' lists ∧
    (t' = t ∨ lists = ∅ ∧ t.stat dir = .error .notFound)

variable {dir : String} {t : FileTree} {lists : Dict (List Rule)}

theorem Mirrors.keeps (h : Mirrors dir t lists) (hroom : HasRoom dir) : Keeps dir t lists where
  room := hroom
  nonempty := FileTree.isEmpty_of_stat h.present
  made := ⟨t, FileTree.createDirectories_of_directory h.present, h, .inl rfl⟩

/-- An entry of the directory is missing if there is no list with its name. -/
theorem Mirrors.absent (h : Mirrors dir t lists) {id : String} (hid : lists[id]? = none) :
    t.entry? (Path.place t.home dir ++ [id ++ "." ++ extension]) = none := by
  by_contra hentry
  obtain ⟨id', rules, hlist, hname⟩ := h.only hentry
  rw [fileName_injective hname, hlist] at hid
  cases hid

theorem Mirrors.beside (h : Mirrors dir t lists) (id : String) :
    t.entry? (Path.place t.home dir ++ [besideName id]) = none := by
  by_contra hentry
  obtain ⟨id', -, -, hname⟩ := h.only hentry
  exact fileName_ne_besideName id' id hname.symm

theorem Mirrors.not_directory (h : Mirrors dir t lists) (id : String) :
    t.entry? (Path.place t.home dir ++ [id ++ "." ++ extension]) ≠ some .directory := by
  cases hid : lists[id]? with
  | none =>
    rw [h.absent hid]
    simp
  | some rules =>
    obtain ⟨date, hentry⟩ := h.stored hid
    rw [hentry]
    simp

/-! ### Reading -/

theorem Mirrors.readText (h : Mirrors dir t lists) (hroom : HasRoom dir) {id : String}
    (hid : FileId id) : t.readText (filePath dir id) =
      match lists[id]? with
      | some rules => .ok (RuleList.text rules)
      | none => .error .notFound := by
  have hresolve := FileTree.resolve_join h.present hroom hid.isPart_fileName
    (plainName_fileName hid.toIsId)
  cases hlist : lists[id]? with
  | none =>
    rw [FileTree.readText, filePath, FileTree.stat, hresolve, ok_bind, h.absent hlist]
    rfl
  | some rules =>
    obtain ⟨date, hentry⟩ := h.stored hlist
    exact FileTree.readText_eq_ok_iff.2 ⟨_, date, hresolve, hentry⟩

/-- **A list is looked up in the directory as it is in memory.** -/
theorem Keeps.lookupIn (h : Keeps dir t lists) {id : String} (hid : FileId id) (n : ℕ) :
    lookupIn dir id t = (memory lists n).lookup id t := by
  obtain ⟨t', -, hmirrors, rfl | ⟨rfl, hmissing⟩⟩ := h.made
  · rw [RuleStore.lookupIn, hmirrors.readText h.room hid, lookup]
    cases lists[id]? with
    | none => rfl
    | some rules => simp only [RuleList.read_text]
  · -- what is below a missing directory is missing, as nothing is in memory yet
    have hresolve := FileTree.resolve_join_of_notFound h.nonempty hmissing h.room
      hid.isPart_fileName
    rw [RuleStore.lookupIn, FileTree.readText, filePath, FileTree.stat, hresolve]
    simp only [lookup, Std.ExtTreeMap.getElem?_empty]
    rfl

/-- Two files of lists with one stem are the same. -/
theorem nodup_stems {names : List String} (h : names.Nodup) :
    ((names.filter fun n => Path.extension? n == some extension).map Path.stem).Nodup := by
  refine (h.filter _).map_on fun name hname name' hname' heq => ?_
  have hext := beq_iff_eq.1 (List.mem_filter.1 hname).2
  have hext' := beq_iff_eq.1 (List.mem_filter.1 hname').2
  rw [(eq_fileName_of_extension? hext).1, (eq_fileName_of_extension? hext').1, heq]

/-- The identifiers of a directory are sorted, each of them once. -/
theorem pairwise_identifiersIn {ids : List String} (h : identifiersIn dir t = .ok ids) :
    ids.Pairwise (· < ·) := by
  cases hlist : t.list dir with
  | error e =>
    rw [identifiersIn, hlist] at h
    cases e <;> cases h
    exact .nil
  | ok names =>
    obtain ⟨-, -, rfl⟩ := FileTree.list_eq_ok hlist
    simp only [identifiersIn, hlist, Except.ok.injEq] at h
    subst h
    let le (a b : String) : Bool := decide (a ≤ b)
    have hsorted := @List.pairwise_mergeSort _ le
      (fun a b c => by simpa [le] using le_trans) (fun a b => by simpa [le] using le_total a b)
    have hnodup := (List.mergeSort_perm _ le).nodup_iff.2
      (nodup_stems (FileTree.nodup_children t (Path.place t.home dir)))
    exact (hsorted _).and hnodup |>.imp fun h => lt_of_le_of_ne (of_decide_eq_true h.1) h.2

/-- **The directory lists the identifiers of the lists, sorted.** -/
theorem Keeps.identifiersIn (h : Keeps dir t lists) : identifiersIn dir t = .ok lists.keys := by
  obtain ⟨t', -, hmirrors, rfl | ⟨rfl, hmissing⟩⟩ := h.made
  · have hlist := FileTree.list_of_directory hmirrors.present
    obtain ⟨ids, hids⟩ : ∃ ids, RuleStore.identifiersIn dir t' = .ok ids :=
      ⟨_, by rw [RuleStore.identifiersIn, hlist]⟩
    rw [hids]
    refine congrArg _ ((pairwise_identifiersIn hids).eq_of_mem_iff (pairwise_keys lists)
      fun {id} => ?_)
    rw [mem_identifiersIn_iff hlist hids, mem_keys_iff]
    constructor
    · rintro ⟨name, hname, -, rfl⟩
      obtain ⟨id, rules, hrules, rfl⟩ := hmirrors.only (FileTree.mem_children_iff.1 hname)
      rw [stem_fileName (hmirrors.ids hrules).ne_empty]
      exact ⟨rules, hrules⟩
    · rintro ⟨rules, hrules⟩
      obtain ⟨date, hentry⟩ := hmirrors.stored hrules
      have hne := (hmirrors.ids hrules).ne_empty
      refine ⟨_, FileTree.mem_children_iff.2 (by rw [hentry]; simp), ?_, stem_fileName hne⟩
      rw [Path.extension?, splitName_fileName hne]
      rfl
  · rw [RuleStore.identifiersIn, FileTree.list_of_notFound hmissing]
    rfl

/-! ### Writing -/

theorem Mirrors.of_confined {t' : FileTree} {lists' : Dict (List Rule)} {id : String}
    (h : Mirrors dir t lists) (hid : FileId id)
    (hconfined : FileTree.Confined ∅ {Path.place t.home dir ++ [id ++ "." ++ extension]} t t')
    (hsame : ∀ id', id' ≠ id → lists'[id']? = lists[id']?)
    (hstored : ∀ rules, lists'[id]? = some rules →
      ∃ date, t'.entry? (Path.place t.home dir ++ [id ++ "." ++ extension]) =
        some (.file (.text (RuleList.text rules)) date))
    (hremoved : lists'[id]? = none →
      t'.entry? (Path.place t.home dir ++ [id ++ "." ++ extension]) = none) :
    Mirrors dir t' lists' where
  present := by
    obtain ⟨hp, hentry⟩ := FileTree.resolve_of_stat h.present
    exact FileTree.stat_eq_ok_iff.2 ⟨_, hconfined.resolve_eq_ok hp, hconfined.directory hentry⟩
  above := by
    rw [hconfined.home]
    exact hconfined.directory h.above
  stored {id' rules} hrules := by
    rw [hconfined.home]
    by_cases hne : id' = id
    · subst hne
      exact hstored rules hrules
    · rw [hsame id' hne] at hrules
      obtain ⟨date, hentry⟩ := h.stored hrules
      refine ⟨date, hconfined.kept (fun hmem => hne ?_) hentry⟩
      exact fileName_injective (List.singleton_inj.1 (List.append_cancel_left hmem))
  only {name} hentry := by
    rw [hconfined.home] at hentry
    by_cases hname : name = id ++ "." ++ extension
    · subst hname
      cases hrules : lists'[id]? with
      | none => exact absurd (hremoved hrules) hentry
      | some rules => exact ⟨id, rules, hrules, rfl⟩
    · have hplace : Path.place t.home dir ++ [name] ∉
          ({Path.place t.home dir ++ [id ++ "." ++ extension]} : Set Place) := fun hmem =>
        hname (List.singleton_inj.1 (List.append_cancel_left hmem))
      obtain ⟨id', rules, hrules, rfl⟩ := h.only fun hnone =>
        hentry (hconfined.absent (Set.notMem_empty _) hplace hnone)
      -- a name other than the file's own is that of another list
      refine ⟨id', rules, ?_, rfl⟩
      rw [hsame id' fun heq => hname (by rw [heq]), hrules]
  ids {id' rules} hrules := by
    by_cases hne : id' = id
    · rw [hne]
      exact hid.toIsId
    · rw [hsame id' hne] at hrules
      exact h.ids hrules

theorem Mirrors.replaceText (h : Mirrors dir t lists) (hroom : HasRoom dir) {id : String}
    (hid : FileId id) (hdot : id ≠ ".") (rules : List Rule) :
    ∃ t', t.replaceText (besidePath dir id) (filePath dir id) (RuleList.text rules) =
        (.ok (), t') ∧ Mirrors dir t' (lists.insert id rules) := by
  have hname := hid.listName hdot
  obtain ⟨t', hreplace, hconfined, hentry⟩ := FileTree.replaceText_join h.present hroom
    hid.isPart_besideName (plainName_besideName hname) hid.isPart_fileName
    (plainName_fileName hid.toIsId) (h.beside id) (h.not_directory id) (RuleList.text rules)
  refine ⟨t', by rw [besidePath_eq_join hname]; exact hreplace, ?_⟩
  refine h.of_confined hid hconfined (fun id' hne => getElem?_insert_of_ne hne rules) ?_ ?_
  · intro rules' hrules
    rw [Std.ExtTreeMap.getElem?_insert_self] at hrules
    cases hrules
    exact ⟨t.now, hentry⟩
  · intro hnone
    rw [Std.ExtTreeMap.getElem?_insert_self] at hnone
    cases hnone

/-- **A list is compiled into the directory as it is into memory**, but for the single dot. -/
theorem Keeps.compile (h : Keeps dir t lists) {id source : String} {rules : List Rule}
    (hid : FileId id) (hdot : id ≠ ".") (hrules : RuleList.ofText source = .ok rules) :
    ∃ t', compileInto dir id source t = (.ok rules, t') ∧
      Keeps dir t' (lists.insert id rules) := by
  obtain ⟨t₁, hmake, hmirrors, -⟩ := h.made
  obtain ⟨t', hreplace, hmirrors'⟩ := hmirrors.replaceText h.room hid hdot rules
  refine ⟨t', ?_, hmirrors'.keeps h.room⟩
  rw [besidePath] at hreplace
  simp only [compileInto, compileSource_eq_ok_iff.2 hrules, hmake, hreplace]

/-- **No list is compiled into a directory under the single dot.** -/
theorem Keeps.compile_dot (h : Keeps dir t lists) {source : String} {rules : List Rule}
    (hrules : RuleList.ofText source = .ok rules) :
    ∃ t', compileInto dir "." source t = (.error (.io "." .isDirectory), t') ∧
      Keeps dir t' lists := by
  obtain ⟨t', hmake, hmirrors, -⟩ := h.made
  have hreplace := FileTree.replaceText_above hmirrors.present h.room hmirrors.above
    (filePath dir ".") (RuleList.text rules)
  refine ⟨t', ?_, hmirrors.keeps h.room⟩
  rw [← besidePath_dot, besidePath] at hreplace
  simp only [compileInto, compileSource_eq_ok_iff.2 hrules, hmake, hreplace]

/-- **A list is removed from the directory as it is from memory.** -/
theorem Keeps.remove (h : Keeps dir t lists) {id : String} (hid : FileId id) :
    ∃ t', removeFrom dir id t =
        (if lists.contains id then .ok () else .error (.notFound id), t') ∧
      Keeps dir t' (if lists.contains id then lists.erase id else lists) := by
  obtain ⟨t', -, hmirrors, rfl | ⟨rfl, hmissing⟩⟩ := h.made
  · have hresolve := FileTree.resolve_join hmirrors.present h.room hid.isPart_fileName
      (plainName_fileName hid.toIsId)
    rw [Std.ExtTreeMap.contains_eq_isSome_getElem?]
    cases hlist : lists[id]? with
    | none =>
      refine ⟨t', ?_, h⟩
      simp only [removeFrom, FileTree.removeFile, filePath, hresolve, ok_bind,
        hmirrors.absent hlist]
      rfl
    | some rules =>
      simp only [Option.isSome_some, if_true]
      obtain ⟨date, hentry⟩ := hmirrors.stored hlist
      have hremove : t'.removeFile (filePath dir id) =
          .ok (t'.drop (Path.place t'.home dir ++ [id ++ "." ++ extension])) := by
        rw [FileTree.removeFile, filePath, hresolve, ok_bind, hentry]
        rfl
      refine ⟨_, by rw [removeFrom, hremove], ?_⟩
      refine Mirrors.keeps (hmirrors.of_confined hid
        (FileTree.confined_drop (by rw [hentry]; simp))
        (fun id' hne => getElem?_erase_of_ne hne) ?_ fun _ => ?_) h.room
      · intro rules' hrules
        rw [Std.ExtTreeMap.getElem?_erase_self] at hrules
        cases hrules
      · rw [FileTree.entryAt_drop (by simp), if_pos rfl]
  · have hresolve := FileTree.resolve_join_of_notFound h.nonempty hmissing h.room
      hid.isPart_fileName
    refine ⟨t, ?_, h⟩
    rw [removeFrom, FileTree.removeFile, filePath, hresolve]
    rfl

/-! ### Requests to both stores -/

/-- **A request gets one answer from both stores**, unless it compiles a valid list under the single
dot. -/
theorem Keeps.answer (h : Keeps dir t lists) {r : Request} (hr : r.Admissible)
    (hdot : ¬r.CompilesDot) (n : ℕ) (u : FileTree) :
    ∃ a t' lists' n', (directory dir).answer t r = (a, directory dir, t') ∧
      (memory lists n).answer u r = (a, memory lists' n', u) ∧ Keeps dir t' lists' := by
  cases r with
  | compile id source =>
    cases hrules : RuleList.ofText source with
    | error cause =>
      refine ⟨.rules (.error (.compile id cause)), t, lists, n, ?_, ?_, h⟩
      · simp only [RuleStore.answer, compile_of_error hrules]
      · simp only [RuleStore.answer, compile_of_error hrules]
    | ok rules =>
      have hid : id ≠ "." := fun heq => hdot ⟨heq, rules, hrules⟩
      obtain ⟨t', hcompile, hkeeps⟩ := h.compile hr hid hrules
      refine ⟨.rules (.ok rules), t', _, n + 1, ?_, ?_, hkeeps⟩
      · simp only [RuleStore.answer, RuleStore.compile, hcompile]
      · simp only [RuleStore.answer, RuleStore.compile, compileSource_eq_ok_iff.2 hrules]
  | lookup id =>
    refine ⟨.rules _, t, lists, n, ?_, rfl, h⟩
    simp only [RuleStore.answer, RuleStore.lookup, h.lookupIn hr n]
  | remove id =>
    obtain ⟨t', hremove, hkeeps⟩ := h.remove hr
    refine ⟨.removed (if lists.contains id then .ok () else .error (.notFound id)), t', _, n, ?_,
      ?_, hkeeps⟩
    · simp only [RuleStore.answer, RuleStore.remove, hremove]
    · simp only [RuleStore.answer, RuleStore.remove]
      split_ifs <;> rfl
  | identifiers =>
    refine ⟨.identifiers _, t, lists, n, ?_, rfl, h⟩
    simp only [RuleStore.answer, RuleStore.identifiers, h.identifiersIn]

/-- The stores answer differently to the compilation of a valid list under the single dot. -/
theorem Keeps.answer_dot (h : Keeps dir t lists) {r : Request} (hdot : r.CompilesDot) (n : ℕ)
    (u : FileTree) :
    ((directory dir).answer t r).1 ≠ ((memory lists n).answer u r).1 ∧
      ∃ a t', (directory dir).answer t r = (a, directory dir, t') ∧ Keeps dir t' lists := by
  cases r with
  | compile id source =>
    obtain ⟨rfl, rules, hrules⟩ := hdot
    obtain ⟨t', hcompile, hkeeps⟩ := h.compile_dot hrules
    simp only [RuleStore.answer, RuleStore.compile, hcompile, compileSource_eq_ok_iff.2 hrules]
    exact ⟨by simp, _, t', rfl, hkeeps⟩
  | lookup id => cases hdot
  | remove id => cases hdot
  | identifiers => cases hdot

theorem Keeps.serve_eq_iff {requests : List Request} (h : Keeps dir t lists)
    (hr : ∀ r ∈ requests, r.Admissible) (n : ℕ) (u : FileTree) :
    ((directory dir).serve t requests).1 = ((memory lists n).serve u requests).1 ↔
      ∀ r ∈ requests, ¬r.CompilesDot := by
  induction requests generalizing t lists n with
  | nil => simp [serve]
  | cons r requests ih =>
    rw [List.forall_mem_cons] at hr ⊢
    by_cases hdot : r.CompilesDot
    · -- the answers part here, so what is asked afterwards is of no account
      refine iff_of_false (fun heq => ?_) fun hall => hall.1 hdot
      exact (h.answer_dot hdot n u).1 (List.cons.inj heq).1
    · obtain ⟨a, t', lists', n', hdirectory, hmemory, hkeeps⟩ := h.answer hr.1 hdot n u
      simp only [serve, hdirectory, hmemory, List.cons.injEq, true_and]
      rw [ih hkeeps hr.2]
      simp [hdot]

/-- After every sequence of requests the directory has the files of some lists. -/
theorem Keeps.serve {requests : List Request} (h : Keeps dir t lists)
    (hr : ∀ r ∈ requests, r.Admissible) :
    ∃ t' lists', ((directory dir).serve t requests).2 = (directory dir, t') ∧
      Keeps dir t' lists' := by
  induction requests generalizing t lists with
  | nil => exact ⟨t, lists, rfl, h⟩
  | cons r requests ih =>
    rw [List.forall_mem_cons] at hr
    obtain ⟨a, t', lists', hanswer, hkeeps⟩ : ∃ a t' lists',
        (directory dir).answer t r = (a, directory dir, t') ∧ Keeps dir t' lists' := by
      by_cases hdot : r.CompilesDot
      · obtain ⟨-, a, t', hanswer, hkeeps⟩ := h.answer_dot hdot 0 t
        exact ⟨a, t', lists, hanswer, hkeeps⟩
      · obtain ⟨a, t', lists', -, hanswer, -, hkeeps⟩ := h.answer hr.1 hdot 0 t
        exact ⟨a, t', lists', hanswer, hkeeps⟩
    obtain ⟨t'', lists'', hserve, hkeeps'⟩ := ih hkeeps hr.2
    exact ⟨t'', lists'', by simp only [RuleStore.serve, hanswer, hserve], hkeeps'⟩

theorem serve_memory (lists : Dict (List Rule)) (n : ℕ) (t : FileTree) (requests : List Request) :
    ∃ lists' n', ((memory lists n).serve t requests).2 = (memory lists' n', t) := by
  induction requests generalizing lists n with
  | nil => exact ⟨lists, n, rfl⟩
  | cons r requests ih =>
    obtain ⟨a, lists', n', hanswer⟩ : ∃ a lists' n',
        (memory lists n).answer t r = (a, memory lists' n', t) := by
      cases r with
      | compile id source =>
        simp only [RuleStore.answer, RuleStore.compile]
        split <;> exact ⟨_, _, _, rfl⟩
      | lookup id => exact ⟨_, _, _, rfl⟩
      | remove id =>
        simp only [RuleStore.answer, RuleStore.remove]
        split_ifs <;> exact ⟨_, _, _, rfl⟩
      | identifiers => exact ⟨_, _, _, rfl⟩
    obtain ⟨lists'', n'', hserve⟩ := ih lists' n'
    exact ⟨lists'', n'', by simp only [RuleStore.serve, hanswer, hserve]⟩

/-! ### Stores that start without lists -/

/-- A compilation that fails leaves every list readable as before. -/
def FailsCleanly (s : RuleStore) (t : FileTree) : Prop :=
  ∀ {id source : String} {e : StoreError}, FileId id → (s.compile id source t).1 = .error e →
    ∀ {id' : String}, FileId id' →
      (s.compile id source t).2.1.lookup id' (s.compile id source t).2.2 = s.lookup id' t

theorem Keeps.failsCleanly (h : Keeps dir t lists) : FailsCleanly (directory dir) t := by
  intro id source e hid herror id' hid'
  cases hrules : RuleList.ofText source with
  | error cause => rw [compile_of_error hrules]
  | ok rules =>
    by_cases hdot : id = "."
    · subst hdot
      obtain ⟨t', hcompile, hkeeps⟩ := h.compile_dot hrules
      simp only [RuleStore.compile, hcompile, RuleStore.lookup, h.lookupIn hid' 0,
        hkeeps.lookupIn hid' 0]
    · obtain ⟨t', hcompile, -⟩ := h.compile hid hdot hrules
      simp [RuleStore.compile, hcompile] at herror

theorem failsCleanly_memory (lists : Dict (List Rule)) (n : ℕ) (t : FileTree) :
    FailsCleanly (memory lists n) t := by
  intro id source e _ herror id' _
  cases hrules : RuleList.ofText source with
  | error cause => rw [compile_of_error hrules]
  | ok rules => simp [RuleStore.compile, compileSource_eq_ok_iff.2 hrules] at herror

/-- A directory that is there and empty, or that can be made, on a disk whose entries are all in
directories. -/
structure Vacant (dir : String) (t : FileTree) : Prop where
  room : HasRoom dir
  grounded : t.Grounded
  made : ∃ t', t.createDirectories dir = (.ok (), t') ∧ t'.list dir = .ok []

theorem Vacant.keeps (h : Vacant dir t) : Keeps dir t ∅ := by
  obtain ⟨t', hmake, hlist⟩ := h.made
  obtain ⟨hresolve, hentry, hnames⟩ := FileTree.list_eq_ok hlist
  have hpresent : t'.stat dir = .ok .directory := FileTree.stat_eq_ok_iff.2 ⟨_, hresolve, hentry⟩
  have hgrounded := h.grounded.createDirectories dir
  rw [hmake] at hgrounded
  have hmirrors : Mirrors dir t' ∅ := by
    refine ⟨hpresent, hgrounded _ (by rw [hentry]; simp), ?_, ?_, ?_⟩
    · intro id rules hrules
      simp at hrules
    · intro name hname
      rw [← FileTree.mem_children_iff, ← hnames] at hname
      cases hname
    · intro id rules hrules
      simp at hrules
  have hnonempty := FileTree.isEmpty_of_stat hpresent
  refine ⟨h.room, hnonempty, t', hmake, hmirrors, ?_⟩
  rcases FileTree.of_createDirectories_eq_ok hmake hnonempty h.room.short with hstat | hstat
  · rw [FileTree.createDirectories_of_directory hstat, Prod.mk.injEq] at hmake
    exact .inl hmake.2.symm
  · exact .inr ⟨rfl, hstat⟩

/-- **A store in a directory that starts without lists answers as one in memory**, request for
request, if and only if no valid list is compiled under the identifier of a single dot.  A
compilation that fails leaves all lists readable in both. -/
theorem serve_directory_eq_iff (h : Vacant dir t) {requests : List Request}
    (hr : ∀ r ∈ requests, r.Admissible) :
    (((directory dir).serve t requests).1 = ((memory ∅ 0).serve t requests).1 ↔
        ∀ r ∈ requests, ¬r.CompilesDot) ∧
      ∀ s ∈ [directory dir, memory ∅ 0],
        FailsCleanly (s.serve t requests).2.1 (s.serve t requests).2.2 := by
  refine ⟨h.keeps.serve_eq_iff hr 0 t, fun s hs => ?_⟩
  obtain rfl | rfl : s = directory dir ∨ s = memory ∅ 0 := by simpa using hs
  · obtain ⟨t', lists', hserve, hkeeps⟩ := h.keeps.serve hr
    rw [hserve]
    exact hkeeps.failsCleanly
  · obtain ⟨lists', n', hserve⟩ := serve_memory ∅ 0 t requests
    rw [hserve]
    exact failsCleanly_memory lists' n' t

/-- A list is replaced, an invalid one is refused, and one is removed; under the single dot the
directory refuses what is accepted in memory. -/
theorem serve_directory_eq_iff_of_dotted :
    let t := FileTree.empty [] ⟨0⟩
    let requests : List Request :=
      [.compile "ads.v2" "[]", .compile "ads.v2" "[1]", .lookup "ads.v2", .compile ".." "[]",
        .identifiers, .remove "ads.v2", .lookup "ads.v2", .remove "b"]
    Vacant "state/rules" t ∧ (∀ r ∈ requests, r.Admissible) ∧
      ((directory "state/rules").serve t requests).1 = ((memory ∅ 0).serve t requests).1 ∧
      ((directory "state/rules").serve t (requests ++ [.compile "." "[]"])).1 ≠
        ((memory ∅ 0).serve t (requests ++ [.compile "." "[]"])).1 := by
  intro t requests
  have hvacant : Vacant "state/rules" t := by
    refine ⟨by decide, ?_, (t.createDirectories "state/rules").2, Prod.ext ?_ rfl, ?_⟩
    · intro p hp
      by_cases hnil : p = []
      · rw [hnil]
        rfl
      · rw [FileTree.entry?, if_neg hnil] at hp
        exact absurd Std.ExtTreeMap.getElem?_empty hp
    -- the search for a slash at the front of a path is irreducible
    · with_unfolding_all decide
    · with_unfolding_all decide
  have hads : FileId "ads.v2" := ⟨⟨by decide, by decide⟩, by decide, by decide⟩
  have hdots : FileId ".." := ⟨⟨by decide, by decide⟩, by decide, by decide⟩
  have hother : FileId "b" := ⟨⟨by decide, by decide⟩, by decide, by decide⟩
  have hdot : FileId "." := ⟨⟨by decide, by decide⟩, by decide, by decide⟩
  have hadmissible : ∀ r ∈ requests, r.Admissible := by
    simp [requests, Request.Admissible, hads, hdots, hother]
  have hdotted : ∀ r ∈ requests ++ [.compile "." "[]"], r.Admissible := by
    simp [requests, Request.Admissible, hads, hdots, hother, hdot]
  refine ⟨hvacant, hadmissible, (serve_directory_eq_iff hvacant hadmissible).1.2 ?_, fun heq => ?_⟩
  · simp [requests, Request.CompilesDot]
  · refine (serve_directory_eq_iff hvacant hdotted).1.1 heq (.compile "." "[]") (by simp) ?_
    exact ⟨rfl, [], by decide⟩

end ContentBlocking.RuleStore
