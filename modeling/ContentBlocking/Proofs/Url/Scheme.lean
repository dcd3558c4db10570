import ContentBlocking.Url

/-!
# URLs with another scheme

The scheme of a URL has no part in its host: a URL has the same host after its scheme was replaced
by `http` (`Url.normalizedHost?_withHttpScheme`), at a place that is shifted by the difference of
the schemes (`Url.hostSpan?_withHttpScheme`), and a URL without a scheme has none.
-/

namespace ContentBlocking.Url

variable {url : String}

theorem splitScheme?_http (rest : List Char) :
    splitScheme? (['h', 't', 't', 'p', ':', '/', '/'] ++ rest) =
      some (['h', 't', 't', 'p', ':', '/', '/'], rest) := rfl

/-- What follows the scheme stays. -/
theorem splitScheme?_withHttpScheme {http : String} (h : withHttpScheme? url = some http) :
    ∃ scheme rest, splitScheme? url.toList = some (scheme, rest) ∧
      splitScheme? http.toList = some (['h', 't', 't', 'p', ':', '/', '/'], rest) := by
  obtain ⟨⟨scheme, rest⟩, hsplit, rfl⟩ := Option.map_eq_some_iff.1 h
  rw [String.toList_ofList]
  exact ⟨scheme, rest, hsplit, splitScheme?_http rest⟩

/-- The new scheme ends behind seven bytes. -/
theorem schemeEnd?_withHttpScheme {http : String} (h : withHttpScheme? url = some http) :
    schemeEnd? http = some 7 := by
  obtain ⟨scheme, rest, -, hhttp⟩ := splitScheme?_withHttpScheme h
  rw [schemeEnd?, hhttp]
  rfl

/-- The scheme `http` is replaced by itself. -/
theorem withHttpScheme?_withHttpScheme {http : String} (h : withHttpScheme? url = some http) :
    withHttpScheme? http = some http := by
  obtain ⟨⟨scheme, rest⟩, -, rfl⟩ := Option.map_eq_some_iff.1 h
  rw [withHttpScheme?, String.toList_ofList, splitScheme?_http]
  rfl

/-! ### Hosts -/

/-- The host stands behind the scheme and the credentials. -/
theorem hostSpan?_of_splitScheme? {scheme rest : List Char}
    (h : splitScheme? url.toList = some (scheme, rest)) :
    hostSpan? url = (splitAuthority? rest).map fun parts =>
      (Text.byteLength scheme + Text.byteLength parts.credentials,
        Text.byteLength scheme + Text.byteLength parts.credentials +
          Text.byteLength parts.host) := by
  simp only [hostSpan?, h, Option.bind_eq_bind, Option.bind_some]
  cases splitAuthority? rest <;> rfl

theorem le_of_hostSpan? {n : Nat} {span : Nat × Nat} (hscheme : schemeEnd? url = some n)
    (hspan : hostSpan? url = some span) : n ≤ span.1 ∧ span.1 ≤ span.2 := by
  obtain ⟨⟨scheme, rest⟩, hsplit, rfl⟩ := Option.map_eq_some_iff.1 hscheme
  rw [hostSpan?_of_splitScheme? hsplit] at hspan
  obtain ⟨parts, -, rfl⟩ := Option.map_eq_some_iff.1 hspan
  exact ⟨Nat.le_add_right _ _, Nat.le_add_right _ _⟩

/-- **The place of the host is shifted by the difference of the schemes.** -/
theorem hostSpan?_withHttpScheme {http : String} {n : Nat} (h : withHttpScheme? url = some http)
    (hscheme : schemeEnd? url = some n) :
    hostSpan? http = (hostSpan? url).map fun span => (span.1 - n + 7, span.2 - n + 7) := by
  obtain ⟨scheme, rest, hurl, hhttp⟩ := splitScheme?_withHttpScheme h
  have hn : Text.byteLength scheme = n := by
    rw [schemeEnd?, hurl] at hscheme
    exact Option.some.inj hscheme
  have hseven : Text.byteLength ['h', 't', 't', 'p', ':', '/', '/'] = 7 := rfl
  rw [hostSpan?_of_splitScheme? hhttp, hostSpan?_of_splitScheme? hurl, Option.map_map, hseven, hn]
  refine congrArg (Option.map · (splitAuthority? rest)) (funext fun parts => ?_)
  refine Prod.ext ?_ ?_ <;> simp only [Function.comp_apply] <;> omega

/-- What stands between the ends of the host stays. -/
theorem host?_withHttpScheme {http : String} (h : withHttpScheme? url = some http) :
    host? http = host? url := by
  obtain ⟨scheme, rest, hurl, hhttp⟩ := splitScheme?_withHttpScheme h
  rw [host?, host?, hurl, hhttp]
  rfl

/-- **A URL has the same host with the scheme `http`.** -/
theorem normalizedHost?_withHttpScheme {http : String} (h : withHttpScheme? url = some http) :
    normalizedHost? http = normalizedHost? url := by
  obtain ⟨scheme, rest, hurl, hhttp⟩ := splitScheme?_withHttpScheme h
  rw [normalizedHost?, normalizedHost?, hurl, hhttp]
  rfl

theorem host?_of_withHttpScheme_none (h : withHttpScheme? url = none) : host? url = none := by
  have hsplit : splitScheme? url.toList = none := Option.map_eq_none_iff.1 h
  rw [host?, hsplit]
  rfl

/-- A URL without a scheme has no host. -/
theorem normalizedHost?_of_withHttpScheme_none (h : withHttpScheme? url = none) :
    normalizedHost? url = none := by
  have hsplit : splitScheme? url.toList = none := Option.map_eq_none_iff.1 h
  rw [normalizedHost?, hsplit]
  rfl

end ContentBlocking.Url
