import ContentBlocking.Proofs.AllowList.LastEdit
import ContentBlocking.Proofs.Url.NormalHost

/-!
# Domains that can be addressed

A domain of an allow-list is asked for and taken off the list by the URL `http://` and the domain.
This reaches the domain exactly if it is in normal form (`AllowList.Store.addressable_iff`).  The
hosts that edits put on a list are in normal form unless they hold an `@`, but the lines of a file
are taken as they are: a line with a capital letter, say, is a domain that exempts sites and that no
URL can ask for or take off.
-/

namespace ContentBlocking.AllowList.Store

open Url (IsNormal normalizedHost?_http_eq_some_iff)

variable {s : Store} {domain : String}

/-! ### One domain of a list -/

theorem isAllowListed_http (hmem : s.domains.contains domain = true)
    (h : IsNormal domain.toList) : s.isAllowListed ("http://" ++ domain) = true :=
  isAllowListed_iff.2 ⟨domain, normalizedHost?_http_eq_some_iff.2 h, hmem⟩

/-- A domain is taken off by its URL exactly if it is in normal form. -/
theorem contains_setAllowListed_http_iff (hmem : s.domains.contains domain = true)
    (t : FileTree) :
    (s.setAllowListed false ("http://" ++ domain) t).2.1.domains.contains domain = false ↔
      IsNormal domain.toList := by
  rw [← normalizedHost?_http_eq_some_iff]
  cases hhost : Url.normalizedHost? ("http://" ++ domain) with
  | none => simp [setAllowListed_of_noHost hhost, hmem]
  | some host =>
    rw [contains_setAllowListed hhost, hmem, Option.some.injEq]
    split_ifs with heq
    · exact iff_of_true rfl heq.symm
    · exact iff_of_false (by simp) (Ne.symm heq)

/-- What is left of a list when a domain is taken off it. -/
theorem domains_setAllowListed_http (h : IsNormal domain.toList) (t : FileTree) :
    (s.setAllowListed false ("http://" ++ domain) t).2.1.domains = s.domains.erase domain := by
  rw [setAllowListed_of_host (normalizedHost?_http_eq_some_iff.2 h)]
  rfl

/-! ### Lists that were opened and edited -/

/-- A domain of a list was there at first or is the host of an edit. -/
theorem exists_mem_of_contains_afterEdits {t : FileTree} {edits : List (Bool × String)}
    (hmem : (s.afterEdits t edits).1.domains.contains domain = true) :
    s.domains.contains domain = true ∨
      ∃ url, (true, url) ∈ edits ∧ Url.normalizedHost? url = some domain := by
  rw [contains_afterEdits] at hmem
  cases hlast : lastEdit? edits domain with
  | none =>
    rw [hlast] at hmem
    exact .inl hmem
  | some enabled =>
    rw [hlast] at hmem
    obtain rfl : enabled = true := hmem
    exact .inr (exists_mem_of_lastEdit? hlast)

/-- **A domain can be addressed exactly if it is in normal form.**  For every domain of a list that
was opened, whatever is in its file, and edited: the domain is the host of its URL if and only if it
is in normal form.  Then the list answers that it has the domain, and taking it off leaves the other
domains, their patterns and their content rule; otherwise taking it off leaves it there.  The domain
is a line of the file, or an edit put it there, and then it is in normal form unless it holds an
`@`. -/
theorem addressable_iff {kind : Kind} {documents : String} {t : FileTree}
    {edits : List (Bool × String)} :
    let live := ((openAt kind documents t).afterEdits t edits).1
    live.domains.contains domain = true →
      (Url.normalizedHost? ("http://" ++ domain) = some domain ↔ IsNormal domain.toList) ∧
      (IsNormal domain.toList → live.isAllowListed ("http://" ++ domain) = true) ∧
      (∀ t', let left := (live.setAllowListed false ("http://" ++ domain) t').2.1.domains
        (left.contains domain = false ↔ IsNormal domain.toList) ∧
        (IsNormal domain.toList →
          let others := live.domains.toList.erase domain
          left.toList = others ∧
          left.patterns = others.map (fun other => DomainPattern.ofWildcard ("*" ++ other)) ∧
          left.rule? = (Domains.ofList others).rule?)) ∧
      ((∃ text, t.readText (Path.join documents kind.filename) = .ok text ∧
          IsLineOf domain text) ∨
        ∃ url, (true, url) ∈ edits ∧ Url.normalizedHost? url = some domain ∧
          ('@' ∉ domain.toList → IsNormal domain.toList)) := by
  intro live hmem
  refine ⟨normalizedHost?_http_eq_some_iff, isAllowListed_http hmem,
    fun t' => ⟨contains_setAllowListed_http_iff hmem t', fun hnormal => ?_⟩, ?_⟩
  · rw [domains_setAllowListed_http hnormal]
    have htoList := live.domains.toList_erase domain
    refine ⟨htoList, ?_, congrArg Domains.rule? ?_⟩
    · rw [Domains.patterns_eq_map, htoList]
      rfl
    · refine Domains.ext_contains fun other => Bool.eq_iff_iff.2 ?_
      rw [Domains.contains_ofList_iff, ← Domains.mem_toList_iff, htoList]
  · refine (exists_mem_of_contains_afterEdits hmem).imp (contains_openAt_iff t).1 ?_
    rintro ⟨url, hurl, hhost⟩
    refine ⟨url, hurl, hhost, fun hat => ⟨Url.isHost_of_normalizedHost? hhost, ?_⟩⟩
    rintro before after heq
    exact absurd (by simp [heq]) hat

/-- Of the domains of a list, `a.com` can be taken off; the line `Example.COM` and the host
`corp@x.org`, which an edit read behind the credentials of its URL, can not. -/
theorem addressable_of_lines_and_hosts :
    let t := (FileTree.empty [] ⟨0⟩).place "docs/ads_whitelist"
      (.file (.text "Example.COM\na.com") ⟨0⟩)
    let live := ((openAt .ads "docs" t).afterEdits t [(true, "http://user@corp@x.org/")]).1
    let without := fun domain =>
      (live.setAllowListed false ("http://" ++ domain) t).2.1.domains
    live.domains.toList = ["Example.COM", "a.com", "corp@x.org"] ∧
      (without "a.com").toList = ["Example.COM", "corp@x.org"] ∧
      (without "Example.COM").contains "Example.COM" = true ∧
      (without "corp@x.org").contains "corp@x.org" = true := by
  intro t live without
  have hlive : live.domains.toList = ["Example.COM", "a.com", "corp@x.org"] := by
    with_unfolding_all decide
  have hmem : ∀ domain ∈ ["Example.COM", "a.com", "corp@x.org"],
      live.domains.contains domain = true :=
    fun domain hdomain => Domains.mem_toList_iff.1 (hlive ▸ hdomain)
  have haddress := fun domain hdomain =>
    @addressable_iff domain .ads "docs" t [(true, "http://user@corp@x.org/")] (hmem domain hdomain)
  -- what is no host of its URL stays when that URL is taken off
  have hstays : ∀ domain ∈ ["Example.COM", "a.com", "corp@x.org"],
      Url.normalizedHost? ("http://" ++ domain) ≠ some domain →
        (without domain).contains domain = true := by
    intro domain hdomain hother
    obtain ⟨hself, -, hoff, -⟩ := haddress domain hdomain
    rw [← Bool.not_eq_false]
    exact fun hgone => hother (hself.2 ((hoff t).1.1 hgone))
  refine ⟨hlive, ?_, hstays _ (by simp) (by decide), hstays _ (by simp) (by decide)⟩
  obtain ⟨hself, -, hoff, -⟩ := haddress "a.com" (by simp)
  have hothers := ((hoff t).2 (hself.1 (by decide))).1
  rw [hlive] at hothers
  exact hothers

end ContentBlocking.AllowList.Store
