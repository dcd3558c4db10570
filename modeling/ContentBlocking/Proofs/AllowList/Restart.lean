import ContentBlocking.AllowList.Store
import ContentBlocking.Proofs.AllowList.Domains
import ContentBlocking.Proofs.Disk.AllOrNothing
import ContentBlocking.Proofs.Ends
import ContentBlocking.Proofs.Text.Pieces

/-!
# Allow-lists after a restart

The file of an allow-list has one domain in a line, and a reader takes off the blanks around it.  A
domain is only read back if it is a line itself: `AllowList.IsLine`.  Hosts of URLs need not be, since
a line feed ends no host and a blank may stand at either end of one.  What is read back of such a
domain are its lines (`AllowList.Store.contains_domainsOfText_textOfDomains_iff`), so the list
survives a restart exactly if each of its domains is a line (`AllowList.Store.reopened_eq_iff`).
-/

namespace ContentBlocking

/-! ### Lines -/

namespace Text

variable {cs l : List Char} {c : Char}

theorem trim_subset (cs : List Char) : trim cs ⊆ cs := by
  rw [trim, dropRightWhile_eq]
  exact fun c hc => (List.dropWhile_sublist _).subset ((List.rdropWhile_prefix _ _).subset hc)

theorem trim_trim (cs : List Char) : trim (trim cs) = trim cs := by
  -- what starts with no blank still does after its end is cut off
  have hstart : ∀ ds : List Char, ds <+: cs.dropWhile isBlank → ds.dropWhile isBlank = ds := by
    intro ds hds
    rw [List.dropWhile_eq_self_iff]
    intro hlength
    have hpos : 0 < (cs.dropWhile isBlank).length := Nat.lt_of_lt_of_le hlength hds.length_le
    rw [hds.getElem hlength]
    exact List.dropWhile_get_zero_not isBlank cs hpos
  rw [trim, dropRightWhile_eq]
  conv_lhs => rw [trim, dropRightWhile_eq, hstart _ (List.rdropWhile_prefix _ _)]
  exact List.rdropWhile_idempotent _ _

theorem trim_concat (h : isBlank c = true) (cs : List Char) : trim (cs ++ [c]) = trim cs := by
  rw [trim, trim, dropRightWhile_eq, dropRightWhile_eq, List.dropWhile_append]
  split_ifs with hempty
  · rw [List.isEmpty_iff.1 hempty, List.dropWhile_cons_of_pos h]
    rfl
  · exact List.rdropWhile_concat_pos _ _ _ h

/-- Trimmed, the lines of a text are what stands between its line feeds. -/
theorem exists_mem_lines_iff (hne : l ≠ []) :
    (∃ m ∈ lines cs, trim m = l) ↔ ∃ m ∈ splitOn '\n' cs, trim m = l := by
  obtain ⟨ended, last, hsplit⟩ : ∃ ended last, splitOn '\n' cs = ended ++ [last] :=
    (List.eq_nil_or_concat' _).resolve_left (splitOnP_ne_nil _ cs)
  have hended : ∀ m : List Char,
      trim (if m.getLast? = some '\r' then m.dropLast else m) = trim m := by
    intro m
    split_ifs with hm
    · conv_rhs => rw [← List.dropLast_append_getLast? _ hm, trim_concat (by decide)]
    · rfl
  have hlines : lines cs =
      (ended.map fun m => if m.getLast? = some '\r' then m.dropLast else m) ++
        if last = [] then [] else [last] := by
    rw [lines, hsplit, List.dropLast_concat, List.getLast?_concat]
    cases last <;> simp
  have hlast : ∀ m, m ∈ (if last = [] then [] else [last]) ↔ m = last ∧ last ≠ [] := by
    intro m
    split_ifs with h <;> simp [h]
  rw [hlines, hsplit]
  simp only [List.mem_append, List.mem_map, hlast, List.mem_singleton]
  constructor
  · rintro ⟨m, ⟨m', hm', rfl⟩ | ⟨rfl, -⟩, rfl⟩
    · exact ⟨m', .inl hm', (hended m').symm⟩
    · exact ⟨m, .inr rfl, rfl⟩
  · rintro ⟨m, hm | rfl, rfl⟩
    · exact ⟨_, .inl ⟨m, hm, rfl⟩, hended m⟩
    · exact ⟨m, .inr ⟨rfl, fun h => hne (by rw [h]; rfl)⟩, rfl⟩

/-- Trimmed, the lines of some texts, one below the other, are the lines of each of them. -/
theorem exists_mem_lines_joinWith_iff (hne : l ≠ []) (ps : List (List Char)) :
    (∃ m ∈ lines (joinWith '\n' ps), trim m = l) ↔
      ∃ p ∈ ps, ∃ m ∈ splitOn '\n' p, trim m = l := by
  by_cases hps : ps = []
  · -- no texts have no lines, though an empty text has one piece
    subst hps
    simp [joinWith, lines, splitOn, splitOnP]
  · rw [exists_mem_lines_iff hne, splitOn_joinWith _ hps]
    constructor
    · rintro ⟨m, hm, htrim⟩
      obtain ⟨p, hp, hm⟩ := List.mem_flatMap.1 hm
      exact ⟨p, hp, m, hm, htrim⟩
    · rintro ⟨p, hp, m, hm, htrim⟩
      exact ⟨m, List.mem_flatMap.2 ⟨p, hp, hm⟩, htrim⟩

end Text

namespace AllowList

/-- A domain that is one line of a file: it has no line feed and no blanks around it. -/
structure IsLine (domain : String) : Prop where
  ne_nil : domain.toList ≠ []
  noLineFeed : '\n' ∉ domain.toList
  trim_eq : Text.trim domain.toList = domain.toList

/-- A domain is the text of a line of another one, without the blanks around it. -/
def IsLineOf (line domain : String) : Prop :=
  line.toList ≠ [] ∧ ∃ l ∈ Text.splitOn '\n' domain.toList, Text.trim l = line.toList

theorem IsLineOf.isLine {line domain : String} (h : IsLineOf line domain) : IsLine line := by
  obtain ⟨hne, l, hl, htrim⟩ := h
  refine ⟨hne, fun hmem => ?_, ?_⟩
  · rw [← htrim] at hmem
    exact Text.not_mem_of_mem_splitOn hl (Text.trim_subset l hmem)
  · rw [← htrim, Text.trim_trim]

/-- The only line of a line is that line. -/
theorem IsLine.isLineOf_iff {line domain : String} (h : IsLine domain) :
    IsLineOf line domain ↔ line = domain := by
  rw [IsLineOf, Text.splitOn_of_not_mem h.noLineFeed]
  simp only [List.mem_singleton, exists_eq_left, h.trim_eq]
  constructor
  · exact fun ⟨_, heq⟩ => (String.toList_inj.1 heq).symm
  · rintro rfl
    exact ⟨h.ne_nil, rfl⟩

namespace Store

variable {s s' : Store} {t : FileTree} {domain : String}

/-! ### Files -/

theorem contains_domainsOfText_iff {text : String} :
    (domainsOfText text).contains domain = true ↔
      domain.toList ≠ [] ∧ ∃ l ∈ Text.lines text.toList, Text.trim l = domain.toList := by
  rw [domainsOfText, Domains.contains_ofList_iff]
  simp only [List.mem_map, List.mem_filter, decide_eq_true_eq]
  constructor
  · rintro ⟨-, ⟨⟨l, hl, rfl⟩, hne⟩, rfl⟩
    rw [String.toList_ofList]
    exact ⟨hne, l, hl, rfl⟩
  · rintro ⟨hne, l, hl, htrim⟩
    exact ⟨_, ⟨⟨l, hl, rfl⟩, htrim ▸ hne⟩, by rw [htrim, String.ofList_toList]⟩

/-- **What is read back are the lines of the domains that were written.** -/
theorem contains_domainsOfText_textOfDomains_iff (d : Domains) :
    (domainsOfText (textOfDomains d)).contains domain = true ↔
      ∃ domain', d.contains domain' = true ∧ IsLineOf domain domain' := by
  rw [contains_domainsOfText_iff, textOfDomains, String.toList_ofList]
  constructor
  · rintro ⟨hne, hline⟩
    obtain ⟨_, hp, hline⟩ := (Text.exists_mem_lines_joinWith_iff hne _).1 hline
    obtain ⟨domain', hmem, rfl⟩ := List.mem_map.1 hp
    exact ⟨domain', Domains.mem_toList_iff.1 hmem, hne, hline⟩
  · rintro ⟨domain', hmem, hne, hline⟩
    have hp : domain'.toList ∈ d.toList.map String.toList :=
      List.mem_map_of_mem (Domains.mem_toList_iff.2 hmem)
    exact ⟨hne, (Text.exists_mem_lines_joinWith_iff hne _).2 ⟨_, hp, hline⟩⟩

/-- What is written is read back as it was exactly if each domain is a line. -/
theorem domainsOfText_textOfDomains_eq_iff (d : Domains) :
    domainsOfText (textOfDomains d) = d ↔ ∀ domain, d.contains domain = true → IsLine domain := by
  constructor
  · intro heq domain hmem
    rw [← heq, contains_domainsOfText_textOfDomains_iff] at hmem
    obtain ⟨_, -, hline⟩ := hmem
    exact hline.isLine
  · intro hlines
    refine Domains.ext_contains fun domain => Bool.eq_iff_iff.2 ?_
    rw [contains_domainsOfText_textOfDomains_iff]
    constructor
    · rintro ⟨domain', hmem, hline⟩
      rw [(hlines domain' hmem).isLineOf_iff.1 hline]
      exact hmem
    · exact fun hmem => ⟨domain, hmem, (hlines domain hmem).isLineOf_iff.2 rfl⟩

/-- The disk is one that the store was just written to. -/
def IsSaved (s : Store) (t : FileTree) : Prop := ∃ t₀, s.persist t₀ = (.ok (), t)

/-- **A store that was saved is read back from its text.** -/
theorem IsSaved.domains_openAt (h : s.IsSaved t) {documents : String}
    (hpath : s.path = some (Path.join documents s.kind.filename)) :
    (openAt s.kind documents t).domains = domainsOfText (textOfDomains s.domains) := by
  obtain ⟨t₀, h⟩ := h
  simp only [persist, hpath] at h
  split_ifs at h with hempty
  · have hstat : t.stat (Path.join documents s.kind.filename) = .error .notFound := by
      split at h
      · next t' hremove =>
        obtain ⟨-, rfl⟩ := Prod.mk.inj h
        exact FileTree.stat_of_removeFile hremove
      · next hremove =>
        obtain ⟨-, rfl⟩ := Prod.mk.inj h
        exact FileTree.stat_of_removeFile_notFound hremove
      · simp at h
    -- no file and the text without lines are the same to a reader
    have hread : t.readText (Path.join documents s.kind.filename) = .error .notFound := by
      rw [FileTree.readText, hstat]
      rfl
    have hnone : domainsOfText (textOfDomains s.domains) = .empty := by
      rw [textOfDomains, Domains.toList_eq_nil_iff.2 hempty]
      rfl
    rw [openAt, hread, hnone]
  · rw [openAt, FileTree.readText_replaceText h]

/-- What a store has when it is opened are the lines of its file. -/
theorem contains_openAt_iff {kind : Kind} {documents : String} (t : FileTree) :
    (openAt kind documents t).domains.contains domain = true ↔
      ∃ text, t.readText (Path.join documents kind.filename) = .ok text ∧ IsLineOf domain text := by
  rw [openAt]
  cases hread : t.readText (Path.join documents kind.filename) with
  | error e => simp [Domains.contains_empty]
  | ok text =>
    simp only [Except.ok.injEq, exists_eq_left']
    rw [contains_domainsOfText_iff, IsLineOf]
    exact and_congr_right Text.exists_mem_lines_iff

/-- A store has lines only when it is opened, whatever is in its file. -/
theorem isLine_openAt {kind : Kind} {documents : String} (t : FileTree)
    (hmem : (openAt kind documents t).domains.contains domain = true) : IsLine domain := by
  obtain ⟨text, -, hline⟩ := (contains_openAt_iff t).1 hmem
  exact hline.isLine

/-! ### Edits -/

/-- The store and the disk after edits, each of which puts the host of a URL on the list or takes it
off. -/
def afterEdits (s : Store) (t : FileTree) : List (Bool × String) → Store × FileTree
  | [] => (s, t)
  | (enabled, url) :: edits =>
    let (_, s, t) := s.setAllowListed enabled url t
    s.afterEdits t edits

theorem afterEdits_cons (s : Store) (t : FileTree) (enabled : Bool) (url : String)
    (edits : List (Bool × String)) :
    s.afterEdits t ((enabled, url) :: edits) =
      (s.setAllowListed enabled url t).2.1.afterEdits (s.setAllowListed enabled url t).2.2 edits :=
  rfl

/-- Each edit that writes the file succeeds in that. -/
def WritesSucceed (s : Store) (t : FileTree) : List (Bool × String) → Prop
  | [] => True
  | (enabled, url) :: edits =>
    (∀ s', s.edit enabled url = some s' → (s'.persist t).1 = .ok ()) ∧
      let (_, s, t) := s.setAllowListed enabled url t
      s.WritesSucceed t edits

/-- An edit without a host does nothing. -/
theorem setAllowListed_of_noHost {url : String} (h : Url.normalizedHost? url = none)
    (enabled : Bool) (t : FileTree) : s.setAllowListed enabled url t = (none, s, t) := by
  rw [setAllowListed, edit, h]
  rfl

theorem setAllowListed_of_host {url host : String} (h : Url.normalizedHost? url = some host)
    (enabled : Bool) (t : FileTree) :
    let s' : Store := { s with
      domains := if enabled then s.domains.insert host else s.domains.erase host }
    s.setAllowListed enabled url t = (some s.kind.dependents, s', s'.save t) := by
  rw [setAllowListed, edit, h]
  rfl

/-- **An edit of a host decides whether the host is on the list, and nothing else.** -/
theorem contains_setAllowListed {url host : String} (hhost : Url.normalizedHost? url = some host)
    (enabled : Bool) (t : FileTree) (domain : String) :
    (s.setAllowListed enabled url t).2.1.domains.contains domain =
      if domain = host then enabled else s.domains.contains domain := by
  rw [setAllowListed_of_host hhost]
  cases enabled with
  | true => exact s.domains.contains_insert host domain
  | false => exact s.domains.contains_erase host domain

theorem edit_eq_some {enabled : Bool} {url : String} (h : s.edit enabled url = some s') :
    s'.kind = s.kind ∧ s'.path = s.path := by
  obtain ⟨host, -, rfl⟩ := Option.map_eq_some_iff.1 h
  exact ⟨rfl, rfl⟩

/-- A run of edits ends with a store that was saved, if it began with one or has a host. -/
theorem isSaved_afterEdits {edits : List (Bool × String)} (hwrites : s.WritesSucceed t edits)
    (h : s.IsSaved t ∨ ∃ e ∈ edits, Url.normalizedHost? e.2 ≠ none) :
    (s.afterEdits t edits).1.IsSaved (s.afterEdits t edits).2 ∧
      (s.afterEdits t edits).1.kind = s.kind ∧ (s.afterEdits t edits).1.path = s.path := by
  induction edits generalizing s t with
  | nil => exact ⟨h.resolve_right (by simp), rfl, rfl⟩
  | cons e edits ih =>
    obtain ⟨enabled, url⟩ := e
    obtain ⟨hwrite, hwrites⟩ := hwrites
    rw [afterEdits]
    rw [setAllowListed] at hwrites ⊢
    cases hedit : s.edit enabled url with
    | none =>
      -- without a host nothing is written, and what was saved is so still
      rw [hedit] at hwrites
      refine ih hwrites (h.imp_right ?_)
      rintro ⟨e, he, hhost⟩
      rcases List.mem_cons.1 he with rfl | he
      · exact absurd (Option.map_eq_none_iff.1 hedit) hhost
      · exact ⟨e, he, hhost⟩
    | some s' =>
      rw [hedit] at hwrites
      obtain ⟨hkind, hpath⟩ := edit_eq_some hedit
      have hsaved : s'.IsSaved (s'.save t) := ⟨t, Prod.ext (hwrite s' hedit) rfl⟩
      obtain ⟨hend, hkind', hpath'⟩ := ih hwrites (.inl hsaved)
      exact ⟨hend, hkind'.trans hkind, hpath'.trans hpath⟩

/-- A store of lines stays one while the hosts of the edits are lines. -/
theorem isLine_afterEdits {edits : List (Bool × String)}
    (hhosts : ∀ e ∈ edits, ∀ host, Url.normalizedHost? e.2 = some host → IsLine host)
    (hlines : ∀ domain, s.domains.contains domain = true → IsLine domain)
    (hmem : (s.afterEdits t edits).1.domains.contains domain = true) : IsLine domain := by
  induction edits generalizing s t with
  | nil => exact hlines domain hmem
  | cons e edits ih =>
    obtain ⟨enabled, url⟩ := e
    rw [afterEdits_cons] at hmem
    refine ih (fun e he => hhosts e (List.mem_cons_of_mem _ he)) (fun domain' hmem' => ?_) hmem
    cases hhost : Url.normalizedHost? url with
    | none =>
      rw [setAllowListed_of_noHost hhost] at hmem'
      exact hlines domain' hmem'
    | some host =>
      rw [contains_setAllowListed hhost] at hmem'
      split_ifs at hmem' with heq
      · exact heq ▸ hhosts _ List.mem_cons_self host hhost
      · exact hlines domain' hmem'

/-- **What survives a restart.**  After any edits of which one has a host, and with writes that
succeed, a store that is opened anew has the lines of the domains of the live one.  It has the
domains, the patterns and the content rule of the live one exactly if each of its domains is a line,
which is so if the hosts of all edits are. -/
theorem reopened_eq_iff {kind : Kind} {documents : String} {t : FileTree}
    {edits : List (Bool × String)} (hwrites : (openAt kind documents t).WritesSucceed t edits)
    (hhost : ∃ e ∈ edits, Url.normalizedHost? e.2 ≠ none) :
    let (live, t') := (openAt kind documents t).afterEdits t edits
    let reopened := openAt kind documents t'
    (∀ domain, reopened.domains.contains domain = true ↔
      ∃ domain', live.domains.contains domain' = true ∧ IsLineOf domain domain') ∧
    (reopened.domains = live.domains ∧ reopened.domains.patterns = live.domains.patterns ∧
        reopened.domains.rule? = live.domains.rule? ↔
      ∀ domain, live.domains.contains domain = true → IsLine domain) ∧
    ((∀ e ∈ edits, ∀ host, Url.normalizedHost? e.2 = some host → IsLine host) →
      ∀ domain, live.domains.contains domain = true → IsLine domain) := by
  obtain ⟨hsaved, hkind, hpath⟩ := isSaved_afterEdits hwrites (.inr hhost)
  have hlines : (∀ e ∈ edits, ∀ host, Url.normalizedHost? e.2 = some host → IsLine host) →
      ∀ domain, ((openAt kind documents t).afterEdits t edits).1.domains.contains domain = true →
        IsLine domain :=
    fun hhosts _ => isLine_afterEdits hhosts fun _ => isLine_openAt t
  generalize (openAt kind documents t).afterEdits t edits = state at hsaved hkind hpath hlines ⊢
  obtain ⟨live, t'⟩ := state
  have hdomains : (openAt kind documents t').domains =
      domainsOfText (textOfDomains live.domains) := by
    have hlive : live.kind = kind := hkind
    subst hlive
    exact hsaved.domains_openAt hpath
  refine ⟨fun domain => ?_, ?_, hlines⟩
  · rw [hdomains, contains_domainsOfText_textOfDomains_iff]
  · -- the patterns and the rule are functions of the domains
    rw [← domainsOfText_textOfDomains_eq_iff, ← hdomains]
    exact ⟨fun h => h.1, fun h => ⟨h, congrArg _ h, congrArg _ h⟩⟩

/-- The host `a.com\nb.com` is one domain when it is put on the list, and two after a restart. -/
theorem reopened_of_two_lines :
    let t := (FileTree.empty [] ⟨0⟩).put ["docs"] .directory
    let edits := [(true, "http://a.com\nb.com/")]
    let (live, t') := (openAt .ads "docs" t).afterEdits t edits
    let reopened := openAt .ads "docs" t'
    (openAt .ads "docs" t).WritesSucceed t edits ∧
      (∃ e ∈ edits, Url.normalizedHost? e.2 ≠ none) ∧
      live.domains.contains "b.com" = false ∧ reopened.domains.contains "b.com" = true := by
  intro t edits
  have hhost : Url.normalizedHost? "http://a.com\nb.com/" = some "a.com\nb.com" := by decide
  have hwrites : (openAt .ads "docs" t).WritesSucceed t edits := by
    refine ⟨fun s' hedit => ?_, trivial⟩
    rw [edit, hhost] at hedit
    obtain rfl := Option.some.inj hedit
    with_unfolding_all decide
  have hsome : ∃ e ∈ edits, Url.normalizedHost? e.2 ≠ none :=
    ⟨_, List.mem_singleton_self _, by rw [hhost]; simp⟩
  have hlines := (reopened_eq_iff hwrites hsome).1
  refine ⟨hwrites, hsome, by with_unfolding_all decide, (hlines "b.com").2 ⟨"a.com\nb.com", ?_, ?_⟩⟩
  · with_unfolding_all decide
  · exact ⟨by decide, ['b', '.', 'c', 'o', 'm'], by decide, by decide⟩

end Store

end AllowList

end ContentBlocking
