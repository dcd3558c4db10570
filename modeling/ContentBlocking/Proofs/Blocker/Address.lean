import ContentBlocking.Proofs.Blocker.Classification
import ContentBlocking.Proofs.Site
import ContentBlocking.Proofs.Site.Address

/-!
# Addresses on allow-lists

A host that is put on an allow-list suppresses the trackers of the sites below it
(`Blocker.classify_edit`).  No address stands below another one, so an address on the list
suppresses at most its own trackers, and these only if it is its own site
(`Site.Address.below_iff`).  `Site.Address.separated_iff` says which addresses are told apart.
-/

namespace ContentBlocking

/-! ### Allow-listed hosts -/

namespace Blocker

open AllowList (Domains)
open AllowLists (Below)

variable {b : Blocker} {k : AllowList.Kind} {url url' host host' site : String}

theorem exempts_edit (hk : k ≠ .popups) (hhost : Url.normalizedHost? url = some host)
    (domain : String) : (b.edit k true url).2.allowLists.Exempts domain ↔
      domain = host ∨ b.allowLists.Exempts domain := by
  have hedit : (b.allowLists.get k).edit true url =
      some { b.allowLists.get k with domains := (b.allowLists.get k).domains.insert host } := by
    rw [AllowList.Store.edit, hhost]
    rfl
  have hinsert : ∀ d : Domains,
      (d.insert host).contains domain = true ↔ domain = host ∨ d.contains domain = true := by
    intro d
    rw [Domains.contains_insert]
    split_ifs with heq <;> simp [heq]
  rw [allowLists_edit, hedit, Option.getD_some]
  cases k with
  | ads =>
    have hads := hinsert b.allowLists.ads.domains
    simp only [AllowLists.Exempts, AllowLists.set, AllowLists.get, hads, or_assoc]
  | tracking =>
    have htracking := hinsert b.allowLists.tracking.domains
    simp only [AllowLists.Exempts, AllowLists.set, AllowLists.get, htracking, or_left_comm]
  | popups => exact absurd rfl hk

theorem matchesAny_edit_iff (hk : k ≠ .popups) (hhost : Url.normalizedHost? url = some host)
    (hfits : DomainPattern.Fits (Domains.wildcard host)) :
    DomainPattern.matchesAny (b.edit k true url).2.allowLists.patterns site = true ↔
      Below site host ∨ DomainPattern.matchesAny b.allowLists.patterns site = true := by
  rw [AllowLists.matchesAny_patterns_iff, AllowLists.matchesAny_patterns_iff]
  simp only [exempts_edit hk hhost, or_and_right, exists_or, exists_eq_left, hfits, true_and]

/-- **A host on an allow-list suppresses the trackers of the sites below it, and no others.** -/
theorem classify_edit (hk : k ≠ .popups) (hhost : Url.normalizedHost? url = some host)
    (hfits : DomainPattern.Fits (Domains.wildcard host))
    (hhost' : Url.normalizedHost? url' = some host') :
    (Below (Site.ofHost b.suffixes host') host → (b.edit k true url).2.classify url' = none) ∧
      (¬Below (Site.ofHost b.suffixes host') host →
        (b.edit k true url).2.classify url' = b.classify url') := by
  have hsuffixes : (b.edit k true url).2.suffixes = b.suffixes := rfl
  have hdatabase : (b.edit k true url).2.database = b.database := rfl
  constructor
  · intro hbelow
    rw [Option.eq_none_iff_forall_ne_some]
    intro t ht
    obtain ⟨table, host'', -, hhost'', -, hmatch⟩ := classify_eq_some_iff.1 ht
    obtain rfl := Option.some.inj (hhost'.symm.trans hhost'')
    exact hmatch ((matchesAny_edit_iff hk hhost hfits).2 (.inl hbelow))
  · intro hbelow
    refine Option.ext fun t => ?_
    rw [classify_eq_some_iff, classify_eq_some_iff, hsuffixes, hdatabase]
    refine exists_congr fun table => exists_congr fun host'' => ?_
    refine and_congr_right fun _ => and_congr_right fun hhost'' => and_congr_right fun _ => ?_
    obtain rfl := Option.some.inj (hhost'.symm.trans hhost'')
    rw [matchesAny_edit_iff hk hhost hfits, or_iff_right hbelow]

end Blocker

/-! ### Allow-listed addresses -/

namespace Site.Address

open AllowLists (Below)

variable {suffixes : Option SuffixList} {a a' : Address}

theorem undotted_text (a : Address) : AllowLists.undotted a.text = a.text := by
  have hchars : a.chars.dropWhile (· == '.') = a.chars := by
    have hhead := a.head?_chars
    cases h : a.chars with
    | nil => rfl
    | cons c cs =>
      rw [h, List.head?_cons, ne_eq, Option.some_inj] at hhead
      exact List.dropWhile_cons_of_neg (by simpa using hhead)
  rw [AllowLists.undotted, text, String.toList_ofList, hchars]

/-- An address is small enough for a pattern. -/
theorem fits_wildcard (a : Address) :
    DomainPattern.Fits (AllowList.Domains.wildcard a.text) := by
  have hbare : DomainPattern.bare (AllowList.Domains.wildcard a.text).toList =
      (AllowLists.undotted a.text).toList := by
    rw [AllowLists.undotted, String.toList_ofList, AllowList.Domains.wildcard, String.toList_append]
    rfl
  have hlength := a.length_chars_le
  refine DomainPattern.fits_of_byteLength_le ?_
  rw [hbare, undotted_text, text, String.toList_ofList]
  exact (Text.byteLength_le a.chars).trans (by omega)

/-- **No address stands below another one**, and its site stands below it only if the address is its
own site. -/
theorem below_iff :
    Below (ofHost suffixes a'.text) a.text ↔ a'.text = a.text ∧ a'.IsWhole suffixes := by
  rw [Below, undotted_text, ofHost_eq_text_iff, or_iff_left]
  rintro ⟨p, -, hsite⟩
  -- then the address itself would end in a dot and the other one
  rw [ofHost_text, text, ← String.toList_inj, String.toList_ofList] at hsite
  obtain ⟨front, hfront⟩ := ofNormal_suffix suffixes a'.chars
  rw [hsite] at hfront
  refine chars_ne_append a a' (front ++ p.toList) ?_
  rw [← hfront]
  simp

/-- **Addresses are told apart as far as their sites keep them whole.**  An address is a host in
normal form.  It is its own site unless it ends in a quad of which fewer than four octets are kept;
without a list that is any quad.  Another address falls into the same site exactly if both sites are
the same last octets.  On the allow-list for ads or for tracking an address suppresses no other
address, and its own trackers only if it is its own site. -/
theorem separated_iff (history : List Question) (a : Address) :
    let suffixes := latestList? history
    let r := Resolver.initial.after history
    Url.normalizedHost? ("http://" ++ a.text) = some a.text ∧
      ((r.site a.text).1 = a.text ↔ a.IsWhole suffixes) ∧
      (suffixes = none → (a.IsWhole suffixes ↔ a.quad? = none)) ∧
      (∀ a' : Address, a.text ≠ a'.text →
        ((r.sameSite a.text a'.text).1 = true ↔ a.Merges suffixes a')) ∧
      ∀ (b : Blocker) (k : AllowList.Kind) (url : String), b.suffixes = suffixes → k ≠ .popups →
        Url.normalizedHost? url = some a.text →
        (b.edit k true url).2.classify url =
            (if a.IsWhole suffixes then none else b.classify url) ∧
          ∀ (a' : Address) (url' : String), a.text ≠ a'.text →
            Url.normalizedHost? url' = some a'.text →
            (b.edit k true url).2.classify url' = b.classify url' := by
  intro suffixes r
  have hinitial : Resolver.initial.Faithful := Resolver.faithful_empty none
  obtain ⟨hfaithful, hlist⟩ := hinitial.after history
  rw [show Resolver.initial.list = none from rfl, Option.or_none] at hlist
  refine ⟨?_, ?_, fun hnone => ?_, fun a' hne => ?_, fun b k url hsuffixes hk hhost => ⟨?_, ?_⟩⟩
  · rw [Url.normalizedHost?_http_eq_some_iff, text, String.toList_ofList]
    exact a.isNormal
  · rw [hfaithful.site_fst, hlist, ofHost_eq_text_iff, eq_self, true_and]
  · rw [hnone, IsWhole, kept_none]
    simp
  · rw [hfaithful.sameSite_fst, hlist, beq_iff_eq, ofHost_eq_iff hne]
  · obtain ⟨hbelow, hnotBelow⟩ := Blocker.classify_edit (b := b) hk hhost a.fits_wildcard hhost
    rw [below_iff, eq_self, true_and, hsuffixes] at hbelow hnotBelow
    split_ifs with hwhole
    · exact hbelow hwhole
    · exact hnotBelow hwhole
  · intro a' url' hne hhost'
    refine (Blocker.classify_edit hk hhost a.fits_wildcard hhost').2 ?_
    rw [below_iff]
    exact fun h => hne h.1.symm

/-- Without a list two addresses are one site, and the first keeps its tracker on the allow-list. -/
theorem separated_iff_of_two_quads :
    let bundle : Bundle := .memory ((∅ : Dict (String × Date)).insert "db"
      ("\x7b\"apps\":\x7b\"a\":\x7b\"cat\":\"cdn\"\x7d\x7d," ++
        "\"domains\":\x7b\"0.1\":\"a\"\x7d\x7d", ⟨0⟩))
    let disk := FileTree.empty [] ⟨0⟩
    let b := (Blocker.create .standard ⟨bundle, .memory ∅ 0, .memory ∅, disk⟩ none).run
      [.load bundle disk "db"]
    let b' := (b.edit .ads true "http://10.0.0.1/").2
    (Resolver.initial.site "10.0.0.1").1 ≠ "10.0.0.1" ∧
      (Resolver.initial.sameSite "10.0.0.1" "192.168.0.1").1 = true ∧
      b'.classify "http://10.0.0.1/" = some ⟨.cdn, "a"⟩ ∧
      b'.classify "http://192.168.0.1/" = some ⟨.cdn, "a"⟩ := by
  intro bundle disk b b'
  let a : Address := .v4 (.ofBytes 10 0 0 1)
  let a' : Address := .v4 (.ofBytes 192 168 0 1)
  have htext : a.text = "10.0.0.1" := by decide +kernel
  have htext' : a'.text = "192.168.0.1" := by decide +kernel
  have hne : a.text ≠ a'.text := by
    rw [htext, htext']
    decide
  obtain ⟨-, hsite, hnone, hsame, hallowed⟩ := separated_iff [] a
  have hwhole : ¬a.IsWhole (latestList? []) := (hnone rfl).not.2 (by simp [a, quad?])
  have hmerges : a.Merges (latestList? []) a' :=
    ⟨rfl, _, rfl, _, rfl, 2, by decide, a.kept_none, a'.kept_none, rfl⟩
  obtain ⟨hown, hother⟩ := hallowed b .ads "http://10.0.0.1/" rfl (by decide)
    (htext ▸ by decide +kernel)
  have hhost' : Url.normalizedHost? "http://192.168.0.1/" = some a'.text := by
    rw [htext']
    decide +kernel
  refine ⟨?_, ?_, ?_, ?_⟩
  · rw [htext] at hsite
    exact hsite.not.2 hwhole
  · have hmerged := (hsame a' hne).2 hmerges
    rwa [htext, htext'] at hmerged
  · rw [hown, if_neg hwhole]
    decide +kernel
  · rw [hother a' _ hne hhost']
    decide +kernel

end Site.Address

end ContentBlocking
