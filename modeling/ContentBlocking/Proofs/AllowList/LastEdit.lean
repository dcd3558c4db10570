import ContentBlocking.Proofs.AllowList.Restart

/-!
# Allow-lists and their last edits

Of a history of edits only the last edit of each host counts: it decides whether the host is on the
list (`AllowList.Store.contains_afterEdits`), so histories with the same last edits lead to the same
store (`AllowList.Store.afterEdits_congr`).  Many URLs have one host, and an edit of any of them is
an edit of that host.
-/

namespace ContentBlocking.AllowList

/-- The last of some edits whose URL has a host: whether it puts the host on the list. -/
def lastEdit? (edits : List (Bool × String)) (host : String) : Option Bool :=
  edits.reverse.findSome? fun (enabled, url) =>
    if Url.normalizedHost? url = some host then some enabled else none

theorem lastEdit?_cons (enabled : Bool) (url : String) (edits : List (Bool × String))
    (host : String) :
    lastEdit? ((enabled, url) :: edits) host = (lastEdit? edits host).or
      (if Url.normalizedHost? url = some host then some enabled else none) := by
  rw [lastEdit?, List.reverse_cons, List.findSome?_append, List.findSome?_singleton]
  rfl

/-- What the last edit of a host says, an edit with that host says. -/
theorem exists_mem_of_lastEdit? {edits : List (Bool × String)} {host : String} {enabled : Bool}
    (h : lastEdit? edits host = some enabled) :
    ∃ url, (enabled, url) ∈ edits ∧ Url.normalizedHost? url = some host := by
  obtain ⟨⟨enabled', url⟩, hmem, hedit⟩ := List.exists_of_findSome?_eq_some h
  simp only [Option.ite_none_right_eq_some, Option.some.injEq] at hedit
  obtain ⟨hhost, rfl⟩ := hedit
  exact ⟨url, List.mem_reverse.1 hmem, hhost⟩

namespace Store

variable {s s' : Store} {t t' : FileTree} {edits edits' : List (Bool × String)}

/-- **The last edit of a host decides whether the host is on the list.** -/
theorem contains_afterEdits (s : Store) (t : FileTree) (edits : List (Bool × String))
    (host : String) :
    (s.afterEdits t edits).1.domains.contains host =
      (lastEdit? edits host).getD (s.domains.contains host) := by
  induction edits generalizing s t with
  | nil => rfl
  | cons e edits ih =>
    obtain ⟨enabled, url⟩ := e
    rw [afterEdits_cons, ih, lastEdit?_cons, Option.getD_or]
    congr 1
    cases hhost : Url.normalizedHost? url with
    | none => simp [setAllowListed_of_noHost hhost]
    | some host' =>
      rw [contains_setAllowListed hhost]
      by_cases heq : host = host'
      · simp [heq]
      · simp [heq, Ne.symm heq]

/-- Edits change only the domains. -/
theorem kind_path_afterEdits (s : Store) (t : FileTree) (edits : List (Bool × String)) :
    (s.afterEdits t edits).1.kind = s.kind ∧ (s.afterEdits t edits).1.path = s.path := by
  induction edits generalizing s t with
  | nil => exact ⟨rfl, rfl⟩
  | cons e edits ih =>
    obtain ⟨enabled, url⟩ := e
    rw [afterEdits_cons, (ih _ _).1, (ih _ _).2, setAllowListed]
    cases hedit : s.edit enabled url with
    | none => exact ⟨rfl, rfl⟩
    | some s' => exact edit_eq_some hedit

theorem ext_contains (hkind : s.kind = s'.kind) (hpath : s.path = s'.path)
    (h : ∀ host, s.domains.contains host = s'.domains.contains host) : s = s' := by
  obtain ⟨k, p, d⟩ := s
  obtain ⟨k', p', d'⟩ := s'
  obtain rfl : k = k' := hkind
  obtain rfl : p = p' := hpath
  obtain rfl : d = d' := Domains.ext_contains h
  rfl

/-- **Histories with the same last edits lead to the same store**, whatever happens on the disk. -/
theorem afterEdits_congr (h : ∀ host, lastEdit? edits host = lastEdit? edits' host) :
    (s.afterEdits t edits).1 = (s.afterEdits t' edits').1 := by
  obtain ⟨hkind, hpath⟩ := s.kind_path_afterEdits t edits
  obtain ⟨hkind', hpath'⟩ := s.kind_path_afterEdits t' edits'
  refine ext_contains (hkind.trans hkind'.symm) (hpath.trans hpath'.symm) fun host => ?_
  rw [contains_afterEdits, contains_afterEdits, h]

/-! ### Questions and answers -/

theorem isAllowListed_iff {url : String} : s.isAllowListed url = true ↔
    ∃ host, Url.normalizedHost? url = some host ∧ s.domains.contains host = true := by
  rw [isAllowListed]
  cases Url.normalizedHost? url <;> simp

theorem setAllowListed_eq_none_iff {enabled : Bool} {url : String} :
    (s.setAllowListed enabled url t).1 = none ↔ Url.normalizedHost? url = none := by
  cases hhost : Url.normalizedHost? url with
  | none => simp [setAllowListed_of_noHost hhost]
  | some host => simp [setAllowListed_of_host hhost]

/-- What is read off a list or written to its file depends on its domains only. -/
theorem derived_congr (hpath : s.path = s'.path)
    (h : ∀ host, s.domains.contains host = s'.domains.contains host) :
    s.domains.patterns = s'.domains.patterns ∧ s.domains.rule? = s'.domains.rule? ∧
      s.domains.fragment = s'.domains.fragment ∧ ∀ t, s.persist t = s'.persist t := by
  have hdomains := Domains.ext_contains h
  refine ⟨congrArg _ hdomains, congrArg _ hdomains, congrArg _ hdomains, fun t => ?_⟩
  rw [persist, persist, hpath, hdomains]

/-- **An allow-list is determined by the last edit of each host.**  A URL is on the list if it has a
host that the last edit of the host put there, or that no edit had and that was there at first.  An
edit is refused exactly if its URL has no host, and then nothing changes.  The patterns are those of
the domains in the order of their code points; what is derived from the list or written to its file
is the same for all lists with the same domains, whichever way they came about, and histories with
the same last edits lead to the same list. -/
theorem determined_by_lastEdit (s : Store) (t : FileTree) (edits : List (Bool × String)) :
    let live := (s.afterEdits t edits).1
    (∀ url, live.isAllowListed url = true ↔ ∃ host, Url.normalizedHost? url = some host ∧
      (lastEdit? edits host).getD (s.domains.contains host) = true) ∧
    (∀ enabled url t',
      ((live.setAllowListed enabled url t').1 = none ↔ Url.normalizedHost? url = none) ∧
      ((live.setAllowListed enabled url t').1 = none →
        (live.setAllowListed enabled url t').2 = (live, t'))) ∧
    (∃ domains : List String, domains.Pairwise (· < ·) ∧
      (∀ host, host ∈ domains ↔ live.domains.contains host = true) ∧
      live.domains.patterns = domains.map fun domain => DomainPattern.ofWildcard ("*" ++ domain)) ∧
    (∀ other : Store, other.path = s.path →
      (∀ host, other.domains.contains host = live.domains.contains host) →
        other.domains.patterns = live.domains.patterns ∧
        other.domains.rule? = live.domains.rule? ∧
        other.domains.fragment = live.domains.fragment ∧
        ∀ t, other.persist t = live.persist t) ∧
    ∀ t' edits', (∀ host, lastEdit? edits' host = lastEdit? edits host) →
      (s.afterEdits t' edits').1 = live := by
  intro live
  refine ⟨fun url => ?_, fun enabled url t' => ⟨setAllowListed_eq_none_iff, fun hnone => ?_⟩,
    ⟨live.domains.toList, live.domains.pairwise_toList, fun _ => Domains.mem_toList_iff,
      live.domains.patterns_eq_map⟩, fun other hpath => derived_congr ?_,
    fun t' edits' => afterEdits_congr⟩
  · simp only [isAllowListed_iff, live, contains_afterEdits]
  · rw [setAllowListed_of_noHost (setAllowListed_eq_none_iff.1 hnone)]
  · rw [hpath, (s.kind_path_afterEdits t edits).2]

/-- One host is put on the list and taken off again, one is put there, and one that was there at
first is taken off; a history with other URLs, in another order, does the same. -/
theorem determined_by_lastEdit_of_three_hosts :
    let s : Store := ⟨.ads, some "docs/ads_whitelist", .ofList ["c.net", "d.io"]⟩
    let t := FileTree.empty [] ⟨0⟩
    let edits := [(true, "http://B.org:80/x"), (false, "https://u:p@C.net./"),
      (true, "https://a.com?q"), (false, "http://b.org/")]
    let edits' := [(false, "ftp://b.ORG"), (true, "http://A.com.:8080/"), (false, "http://c.net#f")]
    let live := (s.afterEdits t edits).1
    (∀ host, lastEdit? edits' host = lastEdit? edits host) ∧ (s.afterEdits t edits').1 = live ∧
      live.isAllowListed "https://A.COM/x" = true ∧ live.isAllowListed "http://D.io" = true ∧
      live.isAllowListed "http://b.org" = false ∧ live.isAllowListed "http://c.net" = false ∧
      (live.setAllowListed true "about:blank" t).2 = (live, t) := by
  intro s t edits edits' live
  have hosts : (edits ++ edits').map (fun e => Url.normalizedHost? e.2) =
      ["b.org", "c.net", "a.com", "b.org", "b.org", "a.com", "c.net"].map some := by decide
  simp only [edits, edits', List.cons_append, List.nil_append, List.map_cons, List.map_nil,
    List.cons.injEq, and_true] at hosts
  obtain ⟨h₁, h₂, h₃, h₄, h₅, h₆, h₇⟩ := hosts
  have hlast : ∀ host, lastEdit? edits' host = lastEdit? edits host := by
    intro host
    have hnil : lastEdit? [] host = none := rfl
    simp only [edits, edits', lastEdit?_cons, h₁, h₂, h₃, h₄, h₅, h₆, h₇, hnil, Option.some.injEq]
    by_cases ha : "a.com" = host
    · subst ha
      decide
    · by_cases hb : "b.org" = host
      · subst hb
        decide
      · simp [ha, hb]
  obtain ⟨hlisted, hedit, -, -, hsame⟩ := determined_by_lastEdit s t edits
  have hasked : ∀ url host, Url.normalizedHost? url = some host →
      live.isAllowListed url = (lastEdit? edits host).getD (s.domains.contains host) := by
    intro url host hhost
    rw [Bool.eq_iff_iff, hlisted, hhost]
    simp
  refine ⟨hlast, hsame t edits' hlast, ?_, ?_, ?_, ?_, ?_⟩
  · rw [hasked _ "a.com" (by decide)]
    decide
  · rw [hasked _ "d.io" (by decide)]
    decide
  · rw [hasked _ "b.org" (by decide)]
    decide
  · rw [hasked _ "c.net" (by decide)]
    decide
  · exact (hedit true "about:blank" t).2 ((hedit true "about:blank" t).1.2 (by decide))

end Store

end ContentBlocking.AllowList
