import ContentBlocking.Proofs.Ends
import ContentBlocking.Proofs.Text.Pieces
import ContentBlocking.Tracker.Table
import Mathlib

/-!
# Sites without a list

Without a public suffix list the site of a host is made of its last labels: two of them, or three if
the last two are a common suffix, or all if there are no more than two.  On lists of labels this is
`Site.siteLabels`, which takes a number of labels from the right.  So a site is its own site
(`Site.siteLabels_siteLabels`), and labels in front of a host that has enough of its own do not
change the site (`Site.siteLabels_append`).  `Site.ofHost_none_stable` says both of hosts, and what
follows for look-ups.
-/

namespace ContentBlocking.Site

open Text (splitOn joinWith)

/-! ### Labels -/

section Labels

variable {labels front : List (List Char)}

/-- Labels that are a common suffix. -/
def IsCommon (labels : List (List Char)) : Prop :=
  String.ofList (joinWith '.' labels) ∈ commonSuffixes

instance : DecidablePred IsCommon := fun _ => inferInstanceAs (Decidable (_ ∈ _))

/-- The labels of the site of a host, given all its labels. -/
def siteLabels (labels : List (List Char)) : List (List Char) :=
  if labels.length ≤ 2 then labels
  else if IsCommon (labels.rtake 2) then labels.rtake 3
  else labels.rtake 2

/-- The labels of a site are the last ones of the host. -/
theorem exists_append_siteLabels (labels : List (List Char)) :
    ∃ front, labels = front ++ siteLabels labels := by
  unfold siteLabels
  split_ifs
  · exact ⟨[], rfl⟩
  · exact exists_append_rtake labels 3
  · exact exists_append_rtake labels 2

theorem siteLabels_ne_nil (h : labels ≠ []) : siteLabels labels ≠ [] := by
  have hrtake : ∀ n, n + 1 ≤ labels.length → labels.rtake (n + 1) ≠ [] := by
    intro n hn hnil
    have hlength := length_rtake hn
    rw [hnil] at hlength
    cases hlength
  unfold siteLabels
  split_ifs
  · exact h
  · exact hrtake 2 (by omega)
  · exact hrtake 1 (by omega)

/-- **The labels of a site are the labels of its own site.** -/
theorem siteLabels_siteLabels (labels : List (List Char)) :
    siteLabels (siteLabels labels) = siteLabels labels := by
  by_cases hshort : labels.length ≤ 2
  · have hall : siteLabels labels = labels := if_pos hshort
    rw [hall, hall]
  · by_cases hcommon : IsCommon (labels.rtake 2)
    · -- the last two labels of the three are the common suffix again
      have hthree : siteLabels labels = labels.rtake 3 := by
        rw [siteLabels, if_neg hshort, if_pos hcommon]
      have hlength : (labels.rtake 3).length = 3 := length_rtake (by omega)
      have hlast : (labels.rtake 3).rtake 2 = labels.rtake 2 := by
        obtain ⟨front, hfront⟩ := exists_append_rtake labels 3
        conv_rhs => rw [hfront, rtake_append_of_le (by omega)]
      rw [hthree, siteLabels, if_neg (by omega), hlast, if_pos hcommon,
        rtake_of_length_le hlength.le]
    · have htwo : siteLabels labels = labels.rtake 2 := by
        rw [siteLabels, if_neg hshort, if_neg hcommon]
      rw [htwo, siteLabels, if_pos (length_rtake_le labels 2)]

/-- **Labels in front of a host do not change its site**, if it has two labels at least and is no
common suffix. -/
theorem siteLabels_append (h : 2 ≤ labels.length) (hcommon : ¬IsCommon labels)
    (front : List (List Char)) : siteLabels (front ++ labels) = siteLabels labels := by
  by_cases htwo : labels.length = 2
  · rw [siteLabels, siteLabels, if_pos htwo.le, rtake_append_of_length htwo, if_neg hcommon]
    split_ifs with hshort
    · -- then there is nothing in front
      rw [List.length_append] at hshort
      rw [List.length_eq_zero_iff.1 (show front.length = 0 by omega), List.nil_append]
    · rfl
  · have hmany : ¬labels.length ≤ 2 := by omega
    have hfront : ¬(front ++ labels).length ≤ 2 := by
      rw [List.length_append]
      omega
    rw [siteLabels, siteLabels, if_neg hfront, if_neg hmany, rtake_append_of_le h,
      rtake_append_of_le (show 3 ≤ labels.length by omega)]

end Labels

/-! ### Hosts -/

theorem builtin_eq (host : List Char) :
    builtin host = joinWith '.' (siteLabels (splitOn '.' host)) := by
  unfold builtin siteLabels
  by_cases hshort : (splitOn '.' host).length ≤ 2
  · rw [if_pos hshort, if_pos hshort, Text.joinWith_splitOn]
  · by_cases hcommon : IsCommon ((splitOn '.' host).rtake 2)
    · rw [if_neg hshort, if_neg hshort, if_pos hcommon]
      exact if_pos hcommon
    · rw [if_neg hshort, if_neg hshort, if_neg hcommon]
      exact if_neg hcommon

theorem splitOn_builtin (host : List Char) :
    splitOn '.' (builtin host) = siteLabels (splitOn '.' host) := by
  obtain ⟨front, hfront⟩ := exists_append_siteLabels (splitOn '.' host)
  rw [builtin_eq]
  refine Text.splitOn_joinWith_of_not_mem (siteLabels_ne_nil (Text.splitOnP_ne_nil _ host)) ?_
  intro label hlabel
  have hmem : label ∈ splitOn '.' host := by
    rw [hfront]
    exact List.mem_append_right front hlabel
  exact Text.not_mem_of_mem_splitOn hmem

theorem builtin_builtin (host : List Char) : builtin (builtin host) = builtin host := by
  rw [builtin_eq (builtin host), splitOn_builtin, siteLabels_siteLabels, ← builtin_eq]

/-- A site is the host or stands behind a dot at its end. -/
theorem builtin_eq_or (host : List Char) :
    builtin host = host ∨ ∃ front, host = front ++ '.' :: builtin host := by
  obtain ⟨front, hfront⟩ := exists_append_siteLabels (splitOn '.' host)
  have hhost : host = joinWith '.' (front ++ siteLabels (splitOn '.' host)) := by
    rw [← hfront, Text.joinWith_splitOn]
  have hne : siteLabels (splitOn '.' host) ≠ [] :=
    siteLabels_ne_nil (Text.splitOnP_ne_nil _ host)
  by_cases hnil : front = []
  · rw [hnil, List.nil_append, ← builtin_eq] at hhost
    exact .inl hhost.symm
  · rw [Text.joinWith_append hnil hne, ← builtin_eq] at hhost
    exact .inr ⟨_, hhost⟩

theorem builtin_append {host : List Char} (h : 2 ≤ (splitOn '.' host).length)
    (hcommon : String.ofList host ∉ commonSuffixes) (front : List Char) :
    builtin (front ++ '.' :: host) = builtin host := by
  have hlabels : ¬IsCommon (splitOn '.' host) := by
    rwa [IsCommon, Text.joinWith_splitOn]
  rw [builtin_eq, Text.splitOn_append_cons, siteLabels_append h hlabels, ← builtin_eq]

/-- A host in small letters and without a dot at its end. -/
structure IsNormal (host : String) : Prop where
  small : ∀ c ∈ host.toList, c.isUpper = false
  noDot : host.toList.getLast? ≠ some '.'

section Hosts

variable {host : String}

theorem IsNormal.map_toLower (h : IsNormal host) : host.toList.map Char.toLower = host.toList := by
  refine (List.map_congr_left fun c hc => ?_).trans (List.map_id _)
  exact Char.toLower_eq_of_not_isUpper (by simp [h.small c hc])

theorem IsNormal.normalize_eq (h : IsNormal host) : normalize host = host.toList := by
  rw [normalize, h.map_toLower, Text.dropRightWhile_of_getLast?_ne h.noDot]

theorem IsNormal.ofHost_none (h : IsNormal host) :
    ofHost none host = String.ofList (builtin host.toList) := by
  rw [ofHost, h.normalize_eq, ofNormal]

/-- The site of a host in normal form is in normal form. -/
theorem IsNormal.site (h : IsNormal host) : IsNormal (ofHost none host) := by
  rw [h.ofHost_none]
  rcases builtin_eq_or host.toList with heq | ⟨front, hfront⟩
  · rwa [heq, String.ofList_toList]
  · refine ⟨fun c hc => h.small c ?_, fun hlast => h.noDot ?_⟩
    · rw [String.toList_ofList] at hc
      rw [hfront]
      exact List.mem_append_right _ (List.mem_cons_of_mem _ hc)
    · rw [String.toList_ofList] at hlast
      rw [hfront, List.getLast?_append, List.getLast?_cons, hlast]
      rfl

/-- Text in front of a host in normal form is normalized apart from it. -/
theorem IsNormal.normalize_append (h : IsNormal host) (hne : host.toList ≠ []) (x : String) :
    normalize (x ++ "." ++ host) = x.toList.map Char.toLower ++ '.' :: host.toList := by
  have hlist : (x ++ "." ++ host).toList = x.toList ++ '.' :: host.toList := by simp
  have hlast : (x.toList.map Char.toLower ++ '.' :: host.toList).getLast? ≠ some '.' := by
    rw [List.getLast?_append_cons, List.getLast?_cons_of_ne_nil hne]
    exact h.noDot
  rw [normalize, hlist, List.map_append, List.map_cons, h.map_toLower]
  exact Text.dropRightWhile_of_getLast?_ne hlast

theorem IsNormal.ofHost_none_append (h : IsNormal host)
    (htwo : 2 ≤ (splitOn '.' host.toList).length) (hcommon : host ∉ commonSuffixes) (x : String) :
    ofHost none (x ++ "." ++ host) = ofHost none host := by
  have hne : host.toList ≠ [] := by
    rintro hnil
    rw [hnil] at htwo
    exact absurd htwo (by decide)
  rw [h.ofHost_none, ofHost, h.normalize_append hne, ofNormal,
    builtin_append htwo (by rwa [String.ofList_toList])]

/-- **Sites without a list are stable.**  The site of a host in normal form is the host or stands at
its end behind a dot, and it is its own site.  If the host has two labels at least and is no common
suffix, labels in front of it do not change the site, and look-ups do not tell two URLs apart that
have such hosts. -/
theorem ofHost_none_stable (h : IsNormal host) :
    (ofHost none host = host ∨ ∃ p, host = p ++ "." ++ ofHost none host) ∧
      ofHost none (ofHost none host) = ofHost none host ∧
      (2 ≤ (splitOn '.' host.toList).length → host ∉ commonSuffixes → ∀ x,
        ofHost none (x ++ "." ++ host) = ofHost none host ∧
        ∀ (table : TrackerTable) (patterns : List String) (url url' : String),
          Url.normalizedHost? url = some host →
          Url.normalizedHost? url' = some (x ++ "." ++ host) →
          table.lookup none url patterns = table.lookup none url' patterns) := by
  refine ⟨?_, ?_, fun htwo hcommon x => ?_⟩
  · rw [h.ofHost_none]
    rcases builtin_eq_or host.toList with heq | ⟨front, hfront⟩
    · exact .inl (by rw [heq, String.ofList_toList])
    · refine .inr ⟨String.ofList front, ?_⟩
      rw [← String.toList_inj]
      simpa using hfront
  · rw [h.site.ofHost_none, h.ofHost_none, String.toList_ofList, builtin_builtin]
  · have hsite := h.ofHost_none_append htwo hcommon x
    refine ⟨hsite, fun table patterns url url' hurl hurl' => ?_⟩
    simp only [TrackerTable.lookup, hurl, hurl', Option.bind_eq_bind, Option.bind_some, hsite]

/-- Under a common suffix the site has three labels, and look-ups find it behind any others. -/
theorem ofHost_none_stable_of_commonSuffix :
    ofHost none "news.example.co.uk" = "example.co.uk" ∧
      ofHost none (ofHost none "news.example.co.uk") = ofHost none "news.example.co.uk" ∧
      ofHost none ("a..b" ++ "." ++ "news.example.co.uk") = ofHost none "news.example.co.uk" ∧
      ∀ table : TrackerTable,
        table.lookup none "https://news.example.co.uk/" [] =
          table.lookup none "https://a..b.News.Example.co.uk:443/" [] := by
  have hnormal : IsNormal "news.example.co.uk" := ⟨by simp, by simp⟩
  obtain ⟨-, hsite, hfront⟩ := ofHost_none_stable hnormal
  obtain ⟨hsame, hlookup⟩ := hfront (by decide) (by decide) "a..b"
  have hurl : Url.normalizedHost? "https://news.example.co.uk/" = some "news.example.co.uk" := by
    decide
  have hurl' : Url.normalizedHost? "https://a..b.News.Example.co.uk:443/" =
      some ("a..b" ++ "." ++ "news.example.co.uk") := by
    decide
  exact ⟨by decide, hsite, hsame, fun table => hlookup table [] _ _ hurl hurl'⟩

end Hosts

end ContentBlocking.Site
