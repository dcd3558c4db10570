import ContentBlocking.Proofs.Url.Authority
import ContentBlocking.Proofs.Url.Scheme
import Mathlib

/-!
# Hosts in normal form

What is read off a URL and normalized is a `Url.IsHost`: it has small letters, no dot at its end and
no character that would end it (`Url.isHost_of_normalizedHost?`).  A text is read as itself behind a
scheme, and so is in normal form, exactly if it is such a host and no `@` in it would end
credentials (`Url.normalizedHost?_http_eq_some_iff`).  A host that stands behind credentials in its
URL can hold an `@` of its own, which is kept.
-/

namespace ContentBlocking.Url

variable {host rest : List Char}

/-- What is left of a host when it is normalized. -/
structure IsHost (host : List Char) : Prop where
  ne_nil : host ≠ []
  small : ∀ c ∈ host, c.isUpper = false
  noDot : host.getLast? ≠ some '.'
  closed : IsClosed host

/-- A host that is its own normal form: an `@` stands in it only behind a character that ends an
authority, as it can in brackets. -/
structure IsNormal (host : List Char) : Prop extends IsHost host where
  noAt : ∀ before after, host = before ++ '@' :: after → ∃ c ∈ before, c ∈ ['/', '?', '#']

/-! ### Credentials -/

/-- A text has no credentials exactly if each `@` in it stands behind the end of the authority. -/
theorem splitCredentials_eq_self_iff : splitCredentials rest = ([], rest) ↔
    ∀ before after, rest = before ++ '@' :: after → ∃ c ∈ before, c ∈ ['/', '?', '#'] := by
  constructor
  · intro h before after hrest
    by_contra hnone
    -- the first `@` of the text ends credentials
    have hmem : '@' ∈ before ++ ['@'] := by simp
    obtain ⟨front, back, hsplit, hfirst⟩ := List.eq_append_cons_of_mem hmem
    have hpass : ∀ c ∈ front, c ∉ ['/', '?', '#', '@'] := by
      intro c hc hends
      have hc' : c ∈ before ++ ['@'] := by
        rw [hsplit]
        exact List.mem_append_left _ hc
      simp only [List.mem_cons, List.not_mem_nil, or_false, List.mem_append] at hends hc'
      have hat : c ≠ '@' := fun heq => hfirst (heq ▸ hc)
      refine hnone ⟨c, hc'.resolve_right hat, ?_⟩
      simp only [List.mem_cons, List.not_mem_nil, or_false]
      tauto
    have hfront : rest = front ++ '@' :: (back ++ after) := by
      rw [hrest, ← List.singleton_append, ← List.append_assoc, hsplit, List.append_assoc,
        List.cons_append]
    rw [hfront, splitCredentials_append_at hpass] at h
    simp at h
  · intro h
    rw [splitCredentials]
    split
    · next after hat =>
      have hrest : rest = rest.takeWhile (fun c => !(endsAuthority c || c == '@')) ++
          '@' :: after := by
        rw [← hat, List.takeWhile_append_dropWhile]
      obtain ⟨c, hc, hends⟩ := h _ _ hrest
      have := List.mem_takeWhile_imp hc
      rw [endsAuthority_iff.2 hends] at this
      cases this
    · rfl

/-! ### Normalizing -/

theorem toLower_eq_iff {c k : Char} (hk : k.isAlpha = false) : c.toLower = k ↔ c = k := by
  have hlower : ∀ c : Char, c.isAlpha = false → c.toLower = c := by
    intro c hc
    rw [Char.isAlpha, Bool.or_eq_false_iff] at hc
    exact Char.toLower_eq_of_not_isUpper (by simp [hc.1])
  constructor
  · rintro rfl
    rw [Char.isAlpha_toLower_eq_isAlpha] at hk
    exact (hlower c hk).symm
  · rintro rfl
    exact hlower c hk

/-- A closed host stays closed when its end is cut off behind the brackets. -/
theorem IsClosed.of_append {front back : List Char} (h : IsClosed (front ++ back))
    (hback : ']' ∉ back) : IsClosed front := by
  rcases h with ⟨hhead, hhost⟩ | ⟨address, more, heq, haddress, hmore⟩
  · refine .inl ⟨fun hbracket => hhead ?_, fun c hc => hhost c (List.mem_append_left _ hc)⟩
    rw [List.head?_append, hbracket]
    rfl
  · have heq' : front ++ back = ('[' :: address ++ [']']) ++ more := by
      rw [heq, List.append_assoc, List.singleton_append]
    rcases List.append_eq_append_iff.1 heq' with ⟨cut, hfront, hcut⟩ | ⟨kept, hfront, hkept⟩
    · -- the cut would go through the brackets
      cases cut using List.reverseRecOn with
      | nil =>
        rw [List.append_nil] at hfront
        exact .inr ⟨address, [], hfront.symm, haddress, by simp⟩
      | append_singleton cut c =>
        rw [← List.append_assoc] at hfront
        obtain rfl := List.singleton_inj.1 (List.append_inj' hfront rfl).2
        exact absurd (by simp [hcut]) hback
    · refine .inr ⟨address, kept, ?_, haddress, fun c hc => hmore c ?_⟩
      · rw [hfront, List.append_assoc, List.singleton_append]
      · exact hkept ▸ List.mem_append_left _ hc

theorem IsClosed.map_toLower (h : IsClosed host) : IsClosed (host.map Char.toLower) := by
  have hends : ∀ {cs : List Char}, (∀ c ∈ cs, c ∉ ['/', '?', '#', ':']) →
      ∀ c ∈ cs.map Char.toLower, c ∉ ['/', '?', '#', ':'] := by
    intro cs hcs k hk hmem
    obtain ⟨c, hc, hlower⟩ := List.mem_map.1 hk
    have halpha : k.isAlpha = false := by
      simp only [List.mem_cons, List.not_mem_nil, or_false] at hmem
      rcases hmem with rfl | rfl | rfl | rfl <;> rfl
    rw [(toLower_eq_iff halpha).1 hlower] at hc
    exact hcs k hc hmem
  rcases h with ⟨hhead, hhost⟩ | ⟨address, more, rfl, haddress, hmore⟩
  · refine .inl ⟨fun hbracket => hhead ?_, hends hhost⟩
    rw [List.head?_map, Option.map_eq_some_iff] at hbracket
    obtain ⟨c, hc, hlower⟩ := hbracket
    rw [hc, (toLower_eq_iff (by decide)).1 hlower]
  · refine .inr ⟨address.map Char.toLower, more.map Char.toLower, ?_, fun hmem => ?_, hends hmore⟩
    · simp only [List.map_append, List.map_cons]
      rfl
    · obtain ⟨c, hc, hlower⟩ := List.mem_map.1 hmem
      rw [(toLower_eq_iff (by decide)).1 hlower] at hc
      exact haddress hc

theorem isHost_normalizeHost (h : IsClosed host) (hne : normalizeHost host ≠ []) :
    IsHost (normalizeHost host) := by
  have hdots : host.rdropWhile (· == '.') ++ host.rtakeWhile (· == '.') = host :=
    List.rdropWhile_append_rtakeWhile
  have hclosed : IsClosed (host.rdropWhile (· == '.')) := by
    refine IsClosed.of_append (hdots.symm ▸ h) fun hmem => ?_
    exact absurd (List.mem_rtakeWhile_imp hmem) (by decide)
  refine ⟨hne, fun c hc => ?_, fun hlast => ?_, hclosed.map_toLower⟩
  · obtain ⟨c, -, rfl⟩ := List.mem_map.1 hc
    exact Char.isUpper_toLower_eq_false c
  · rw [normalizeHost, List.getLast?_map, Option.map_eq_some_iff] at hlast
    obtain ⟨c, hc, hdot⟩ := hlast
    obtain rfl := (toLower_eq_iff (by decide)).1 hdot
    have hend : (host.rdropWhile (· == '.')).getLast? = some '.' := hc
    obtain ⟨hne', hgetLast⟩ := List.mem_getLast?_eq_getLast hend
    exact List.rdropWhile_last_not (· == '.') host hne' (by rw [← hgetLast]; rfl)

/-- A host without capital letters and dots at its end is left alone. -/
theorem IsHost.normalizeHost_eq (h : IsHost host) : normalizeHost host = host := by
  have hmap := normalizeHost_append_replicate h.noDot 0
  rw [List.replicate_zero, List.append_nil] at hmap
  rw [hmap]
  refine (List.map_congr_left fun c hc => ?_).trans (List.map_id host)
  exact Char.toLower_eq_of_not_isUpper (by simp [h.small c hc])

theorem length_normalizeHost_le (host : List Char) : (normalizeHost host).length ≤ host.length := by
  rw [normalizeHost, List.length_map]
  exact (List.rdropWhile_prefix (· == '.') host).length_le

/-! ### Hosts of URLs -/

theorem normalizedHost?_eq_some_iff {url domain : String} : normalizedHost? url = some domain ↔
    ∃ scheme rest parts, splitScheme? url.toList = some (scheme, rest) ∧
      splitAuthority? rest = some parts ∧ normalizeHost parts.host = domain.toList ∧
      domain.toList ≠ [] := by
  simp only [normalizedHost?, Option.bind_eq_bind, Option.bind_eq_some_iff, Prod.exists]
  refine exists_congr fun scheme => exists_congr fun rest => ?_
  rw [exists_and_left]
  refine and_congr_right fun _ => exists_congr fun parts => and_congr_right fun _ => ?_
  cases normalizeHost parts.host with
  | nil =>
    constructor
    · rintro ⟨⟩
    · rintro ⟨hnil, hne⟩
      exact absurd hnil.symm hne
  | cons c cs =>
    simp only [Option.pure_def, Option.some.injEq]
    constructor
    · rintro rfl
      simp
    · rintro ⟨heq, -⟩
      rw [heq, String.ofList_toList]

theorem isClosed_of_splitAuthority? {parts : Parts} (h : splitAuthority? rest = some parts) :
    IsClosed parts.host := by
  obtain ⟨⟨host, tail⟩, hhost, rfl⟩ := Option.map_eq_some_iff.1 h
  exact isClosed_of_splitHost? hhost

/-- **What is read off a URL and normalized is a host.** -/
theorem isHost_of_normalizedHost? {url domain : String} (h : normalizedHost? url = some domain) :
    IsHost domain.toList := by
  obtain ⟨scheme, rest, parts, -, hparts, hhost, hne⟩ := normalizedHost?_eq_some_iff.1 h
  rw [← hhost] at hne ⊢
  exact isHost_normalizeHost (isClosed_of_splitAuthority? hparts) hne

/-- **A text is its own host behind a scheme exactly if it is in normal form.** -/
theorem normalizedHost?_http_eq_some_iff {domain : String} :
    normalizedHost? ("http://" ++ domain) = some domain ↔ IsNormal domain.toList := by
  have hscheme : splitScheme? ("http://" ++ domain).toList =
      some (['h', 't', 't', 'p', ':', '/', '/'], domain.toList) := by
    rw [String.toList_append]
    exact splitScheme?_http _
  constructor
  · intro h
    obtain ⟨scheme, rest, parts, hsplit, hparts, hhost, -⟩ := normalizedHost?_eq_some_iff.1 h
    obtain ⟨-, rfl⟩ := Prod.mk.inj (Option.some.inj (hscheme.symm.trans hsplit))
    -- the host takes up the whole text, which leaves nothing for the other parts
    have htext := text_of_splitAuthority? hparts
    have hlength := congrArg List.length htext
    have hle := length_normalizeHost_le parts.host
    rw [hhost] at hle
    simp only [Parts.text, List.length_append] at hlength
    have hcredentials : parts.credentials = [] := List.length_eq_zero_iff.1 (by omega)
    refine ⟨isHost_of_normalizedHost? h, splitCredentials_eq_self_iff.1 ?_⟩
    have hfirst : (splitCredentials domain.toList).1 = [] := by
      obtain ⟨_, -, heq⟩ := Option.map_eq_some_iff.1 hparts
      rw [← hcredentials, ← heq]
      rfl
    have happend := append_splitCredentials domain.toList
    rw [hfirst, List.nil_append] at happend
    exact Prod.ext hfirst happend
  · intro h
    have hsplit : splitHost? (domain.toList ++ []) = some (domain.toList, []) :=
      splitHost?_append h.closed (by simp)
    rw [List.append_nil] at hsplit
    refine normalizedHost?_eq_some_iff.2 ⟨_, _, ⟨[], domain.toList, []⟩, hscheme, ?_,
      h.normalizeHost_eq, h.ne_nil⟩
    rw [splitAuthority?, splitCredentials_eq_self_iff.2 h.noAt]
    simp only [hsplit, Option.map_some]

end ContentBlocking.Url
