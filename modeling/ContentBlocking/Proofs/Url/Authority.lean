import ContentBlocking.Proofs.Ends
import ContentBlocking.Url

/-!
# Hosts of URLs that are put together from their parts

A URL `scheme://userinfo@host:port/tail` names its host between the last `@` of its authority and
the port.  The host that is read off the URL starts behind the first `@`, so it is this host as long
as no further `@` stands in the userinfo.  If one does, what is read is a piece of the userinfo, and
this is the host only if the userinfo spells the host with a colon behind it right after its first
`@` (`Url.Composition.host?_eq_iff`).
-/

namespace ContentBlocking.Url

/-! ### The parts -/

/-- A URL put together from its parts, each of which is free of the characters that would end it.
The userinfo may hold further `@`: the last one of the authority ends it. -/
structure Composition where
  scheme : List Char
  userinfo : Option (List Char)
  host : List Char
  port : Option (List Char)
  tail : List Char
  scheme_ne_nil : scheme ≠ []
  scheme_chars : ∀ c ∈ scheme, c.isAlphanum ∨ c ∈ ['+', '-', '.']
  userinfo_chars : ∀ info ∈ userinfo, ∀ c ∈ info, c ∉ ['/', '?', '#']
  /-- A host is a name, or an address in brackets, which alone may hold colons. -/
  host_chars :
    (host.head? ≠ some '[' ∧ ∀ c ∈ host, c ∉ ['/', '?', '#', ':', '@']) ∨
      ∃ address, host = '[' :: address ++ [']'] ∧ ∀ c ∈ address, c ∉ [']', '/', '?', '#', '@']
  port_chars : ∀ digits ∈ port, ∀ c ∈ digits, c ∉ ['/', '?', '#', '@']
  tail_head : ∀ c ∈ tail.head?, c ∈ ['/', '?', '#']

namespace Composition

variable (u : Composition)

/-- The port with its colon and all that follows it. -/
def ending : List Char :=
  (u.port.elim [] fun port => ':' :: port) ++ u.tail

/-- The userinfo with the `@` that ends it. -/
def credentials : List Char :=
  u.userinfo.elim [] fun info => info ++ ['@']

/-- What follows the scheme. -/
def rest : List Char :=
  u.credentials ++ (u.host ++ u.ending)

/-- The URL. -/
def url : String :=
  String.ofList (u.scheme ++ [':', '/', '/'] ++ u.rest)

end Composition

/-! ### Splitting at the first character that ends a part -/

variable {host rest : List Char}

theorem endsAuthority_iff {c : Char} : endsAuthority c = true ↔ c ∈ ['/', '?', '#'] := by
  simp [endsAuthority, or_assoc]

theorem endsHost_iff {c : Char} : endsHost c = true ↔ c ∈ ['/', '?', '#', ':'] := by
  simp [endsHost, endsAuthority_iff, or_assoc]

/-- A text that is all of `p` and is followed by nothing or by a character without `p` is what is
taken by `p`. -/
theorem takeWhile_dropWhile_append {p : Char → Bool} {front : List Char} (back : List Char)
    (hfront : ∀ c ∈ front, p c = true) (hback : ∀ c ∈ back.head?, p c = false) :
    (front ++ back).takeWhile p = front ∧ (front ++ back).dropWhile p = back := by
  rw [List.takeWhile_append_of_pos hfront, List.dropWhile_append_of_pos hfront]
  cases back with
  | nil => simp
  | cons c back =>
    have hc : p c = false := hback c rfl
    simp [hc]

theorem splitScheme?_append {scheme : List Char} (hne : scheme ≠ [])
    (hscheme : ∀ c ∈ scheme, isSchemeChar c = true) (rest : List Char) :
    splitScheme? (scheme ++ [':', '/', '/'] ++ rest) = some (scheme ++ [':', '/', '/'], rest) := by
  have hcolon : ∀ c ∈ scheme, (c != ':') = true := by
    intro c hc
    rw [bne_iff_ne]
    rintro rfl
    exact absurd (hscheme _ hc) (by decide)
  obtain ⟨htake, hdrop⟩ := takeWhile_dropWhile_append (':' :: '/' :: '/' :: rest) hcolon (by simp)
  simp only [List.append_assoc, List.cons_append, List.nil_append]
  rw [splitScheme?, htake, hdrop]
  simp only
  rw [if_pos ⟨hne, List.all_eq_true.2 hscheme⟩]

/-- What holds neither an `@` nor an end of the authority is passed over by the credentials. -/
theorem passes_of_notMem {cs : List Char} (h : ∀ c ∈ cs, c ∉ ['/', '?', '#', '@']) :
    ∀ c ∈ cs, (!(endsAuthority c || c == '@')) = true := by
  intro c hc
  have hmem := h c hc
  simp only [List.mem_cons, List.not_mem_nil, or_false, not_or] at hmem
  simp [endsAuthority, hmem]

/-- The first `@` of an authority ends the credentials. -/
theorem splitCredentials_append_at {before : List Char}
    (h : ∀ c ∈ before, c ∉ ['/', '?', '#', '@']) (after : List Char) :
    splitCredentials (before ++ '@' :: after) = (before ++ ['@'], after) := by
  obtain ⟨htake, hdrop⟩ :=
    takeWhile_dropWhile_append ('@' :: after) (passes_of_notMem h) (by simp)
  rw [splitCredentials, htake, hdrop]
  rfl

/-- An authority without an `@` has no credentials. -/
theorem splitCredentials_append_of_notMem {authority tail : List Char}
    (h : ∀ c ∈ authority, c ∉ ['/', '?', '#', '@']) (htail : ∀ c ∈ tail.head?, c ∈ ['/', '?', '#']) :
    splitCredentials (authority ++ tail) = ([], authority ++ tail) := by
  have hstop : ∀ c ∈ tail.head?, (!(endsAuthority c || c == '@')) = false := by
    intro c hc
    simp [endsAuthority_iff.2 (htail c hc)]
  obtain ⟨-, hdrop⟩ := takeWhile_dropWhile_append _ (passes_of_notMem h) hstop
  rw [splitCredentials, hdrop]
  split
  · next after =>
    exact absurd (htail '@' rfl) (by decide)
  · rfl

/-- A host that no character ends early: it has no bracket at its start or one that is closed, and
outside of the brackets no character that ends a host. -/
def IsClosed (host : List Char) : Prop :=
  (host.head? ≠ some '[' ∧ ∀ c ∈ host, c ∉ ['/', '?', '#', ':']) ∨
    ∃ address more, host = '[' :: address ++ ']' :: more ∧ ']' ∉ address ∧
      ∀ c ∈ more, c ∉ ['/', '?', '#', ':']

theorem endsHost_eq_false {cs : List Char} (h : ∀ c ∈ cs, c ∉ ['/', '?', '#', ':']) :
    ∀ c ∈ cs, (!endsHost c) = true := by
  intro c hc
  rw [Bool.not_eq_true', Bool.eq_false_iff]
  exact fun hends => h c hc (endsHost_iff.1 hends)

/-- A host is read up to the port, path, query or fragment behind it; the colons of an address in
brackets do not end it. -/
theorem splitHost?_append {back : List Char} (h : IsClosed host)
    (hback : ∀ c ∈ back.head?, c ∈ ['/', '?', '#', ':']) :
    splitHost? (host ++ back) = some (host, back) := by
  have hstop : ∀ c ∈ back.head?, (!endsHost c) = false := by
    intro c hc
    simp [endsHost_iff.2 (hback c hc)]
  rcases h with ⟨hhead, hhost⟩ | ⟨address, more, rfl, haddress, hmore⟩
  · obtain ⟨htake, hdrop⟩ := takeWhile_dropWhile_append _ (endsHost_eq_false hhost) hstop
    rw [splitHost?, htake, hdrop]
    intro r hr
    -- an empty host is followed by no bracket either
    cases host with
    | nil =>
      rw [List.nil_append] at hr
      subst hr
      exact absurd (hback '[' rfl) (by decide)
    | cons c cs =>
      rw [List.cons_append, List.cons.injEq] at hr
      exact hhead (by rw [hr.1]; rfl)
  · have hinside : ∀ c ∈ '[' :: address, (c != ']') = true := by
      intro c hc
      rw [bne_iff_ne]
      rintro rfl
      rcases List.mem_cons.1 hc with hc | hc
      · exact absurd hc (by decide)
      · exact haddress hc
    obtain ⟨htake, hdrop⟩ := takeWhile_dropWhile_append (']' :: (more ++ back)) hinside (by simp)
    obtain ⟨hrest, htail⟩ := takeWhile_dropWhile_append back (endsHost_eq_false hmore) hstop
    simp only [List.cons_append, List.append_assoc] at htake hdrop ⊢
    rw [splitHost?, htake, hdrop]
    simp only
    rw [hrest, htail]
    rfl

/-- **What is read as a host is closed.** -/
theorem isClosed_of_splitHost? {tail : List Char} (h : splitHost? rest = some (host, tail)) :
    IsClosed host := by
  have hpass : ∀ cs : List Char, ∀ c ∈ cs.takeWhile (!endsHost ·), c ∉ ['/', '?', '#', ':'] := by
    intro cs c hc hends
    have := List.mem_takeWhile_imp hc
    rw [endsHost_iff.2 hends] at this
    cases this
  simp only [splitHost?] at h
  split at h
  · next r =>
    split at h
    · cases h
    · next close after hclose =>
      obtain ⟨rfl, -⟩ := Prod.mk.inj (Option.some.inj h)
      obtain rfl : close = ']' := by
        have := List.head?_dropWhile_not (· != ']') ('[' :: r)
        rw [hclose] at this
        simpa using this
      refine .inr ⟨r.takeWhile (· != ']'), _, rfl, fun hmem => ?_, hpass after⟩
      exact absurd (List.mem_takeWhile_imp hmem) (by decide)
  · next hhead =>
    obtain ⟨rfl, -⟩ := Prod.mk.inj (Option.some.inj h)
    refine .inl ⟨fun hbracket => ?_, hpass rest⟩
    obtain ⟨c, r, rfl⟩ := List.exists_cons_of_ne_nil (l := rest) (by rintro rfl; cases hbracket)
    rw [List.takeWhile_cons] at hbracket
    split_ifs at hbracket
    · exact hhead r (by rw [Option.some.inj hbracket])
    · cases hbracket

/-- What follows a host starts with a character that ends it. -/
theorem mem_of_splitHost? {tail : List Char} (h : splitHost? rest = some (host, tail)) :
    ∀ c ∈ tail.head?, c ∈ ['/', '?', '#', ':'] := by
  have hstop : ∀ cs : List Char, ∀ c ∈ (cs.dropWhile (!endsHost ·)).head?,
      c ∈ ['/', '?', '#', ':'] := by
    intro cs c hc
    have := List.head?_dropWhile_not (!endsHost ·) cs
    rw [Option.mem_def.1 hc] at this
    exact endsHost_iff.1 (by simpa using this)
  simp only [splitHost?] at h
  split at h
  · split at h
    · cases h
    · simp only [Option.some.injEq, Prod.mk.injEq] at h
      obtain ⟨-, rfl⟩ := h
      exact hstop _
  · simp only [Option.some.injEq, Prod.mk.injEq] at h
    obtain ⟨-, rfl⟩ := h
    exact hstop _

/-! ### Hosts -/

theorem normalizeHost_append_replicate {front : List Char} (h : front.getLast? ≠ some '.')
    (n : Nat) : normalizeHost (front ++ List.replicate n '.') = front.map Char.toLower := by
  have hdots : (front ++ List.replicate n '.').rdropWhile (· == '.') = front := by
    induction n with
    | zero =>
      rw [List.replicate_zero, List.append_nil]
      exact Text.dropRightWhile_of_getLast?_ne h
    | succ n ih =>
      rw [List.replicate_succ', ← List.append_assoc, List.rdropWhile_concat_pos _ _ _ (by rfl), ih]
  exact congrArg (List.map Char.toLower) hdots

/-- The normal form of a URL's host is made of the host as written. -/
theorem normalizedHost?_of_host? {url : String} (h : host? url = some (String.ofList host)) :
    normalizedHost? url =
      if normalizeHost host = [] then none else some (String.ofList (normalizeHost host)) := by
  simp only [host?, Option.bind_eq_bind, Option.bind_eq_some_iff, Option.pure_def,
    Option.some.injEq, Prod.exists] at h
  obtain ⟨scheme, rest, hscheme, parts, hparts, hhost⟩ := h
  obtain rfl := String.ofList_injective hhost
  rw [normalizedHost?, hscheme]
  simp only [Option.bind_eq_bind, Option.bind_some, hparts]
  cases normalizeHost parts.host with
  | nil => rfl
  | cons c cs => rfl

namespace Composition

variable (u : Composition)

theorem ending_head : ∀ c ∈ u.ending.head?, c ∈ ['/', '?', '#', ':'] := by
  intro c hc
  rw [ending] at hc
  cases hport : u.port with
  | none =>
    rw [hport] at hc
    have := u.tail_head c hc
    simp only [List.mem_cons, List.not_mem_nil, or_false] at this ⊢
    tauto
  | some port =>
    rw [hport] at hc
    obtain rfl : ':' = c := by simpa using hc
    decide

theorem host_notMem : ∀ c ∈ u.host, c ∉ ['/', '?', '#', '@'] := by
  intro c hc
  rcases u.host_chars with ⟨-, hhost⟩ | ⟨address, haddress, hchars⟩
  · have := hhost c hc
    simp_all
  · rw [haddress] at hc
    simp only [List.cons_append, List.mem_cons, List.mem_append, List.not_mem_nil, or_false] at hc
    rcases hc with rfl | hc | rfl
    · decide
    · have := hchars c hc
      simp_all
    · decide

theorem isClosed_host : IsClosed u.host := by
  rcases u.host_chars with ⟨hhead, hhost⟩ | ⟨address, haddress, hchars⟩
  · refine .inl ⟨hhead, fun c hc hends => hhost c hc ?_⟩
    simp only [List.mem_cons, List.not_mem_nil, or_false] at hends ⊢
    tauto
  · exact .inr ⟨address, [], haddress, fun hmem => hchars _ hmem List.mem_cons_self, by simp⟩

/-- What is read as the host is found behind the scheme. -/
theorem host?_url :
    host? u.url = (splitAuthority? u.rest).map fun parts => String.ofList parts.host := by
  have hscheme : ∀ c ∈ u.scheme, isSchemeChar c = true := by
    intro c hc
    have := u.scheme_chars c hc
    simpa [isSchemeChar, or_assoc] using this
  rw [host?, url, String.toList_ofList, splitScheme?_append u.scheme_ne_nil hscheme]
  cases h : splitAuthority? u.rest with
  | none => simp [h]
  | some parts => simp [h]

/-- A userinfo without an `@` is cut off whole. -/
theorem splitAuthority?_rest (h : ∀ info ∈ u.userinfo, '@' ∉ info) :
    splitAuthority? u.rest = some ⟨u.credentials, u.host, u.ending⟩ := by
  have hsplit : splitCredentials u.rest = (u.credentials, u.host ++ u.ending) := by
    cases hinfo : u.userinfo with
    | none =>
      have hport : ∀ c ∈ u.host ++ u.port.elim [] (':' :: ·), c ∉ ['/', '?', '#', '@'] := by
        intro c hc
        rcases List.mem_append.1 hc with hc | hc
        · exact u.host_notMem c hc
        · cases hport : u.port with
          | none => simp [hport] at hc
          | some port =>
            rw [hport] at hc
            rcases List.mem_cons.1 hc with rfl | hc
            · decide
            · exact u.port_chars port hport c hc
      rw [rest, credentials, hinfo, ending]
      simpa using splitCredentials_append_of_notMem hport u.tail_head
    | some info =>
      have hbefore : ∀ c ∈ info, c ∉ ['/', '?', '#', '@'] := by
        intro c hc
        have hne : c ≠ '@' := by
          rintro rfl
          exact h info hinfo hc
        have := u.userinfo_chars info hinfo c hc
        simp_all
      rw [rest, credentials, hinfo]
      simpa using splitCredentials_append_at hbefore (u.host ++ u.ending)
  rw [splitAuthority?, hsplit]
  simp only
  rw [splitHost?_append u.isClosed_host u.ending_head]
  rfl

/-- The host is read right behind the first `@` of a userinfo. -/
theorem splitAuthority?_rest_of_at {before after : List Char}
    (hinfo : u.userinfo = some (before ++ '@' :: after)) (hfirst : '@' ∉ before) :
    splitAuthority? u.rest =
      (splitHost? (after ++ '@' :: (u.host ++ u.ending))).map fun (host, tail) =>
        ⟨before ++ ['@'], host, tail⟩ := by
  have hbefore : ∀ c ∈ before, c ∉ ['/', '?', '#', '@'] := by
    intro c hc
    have hne : c ≠ '@' := by
      rintro rfl
      exact hfirst hc
    have := u.userinfo_chars _ hinfo c (List.mem_append_left _ hc)
    simp_all
  rw [rest, credentials, hinfo, splitAuthority?]
  simp only [Option.elim_some, List.append_assoc, List.cons_append, List.nil_append]
  rw [splitCredentials_append_at hbefore]

/-- What stands behind the first `@` of a userinfo with a second one is only read as the host if it
spells the host, with a colon behind it. -/
theorem splitHost?_append_at_iff {after : List Char} (hafter : ∀ c ∈ after, c ∉ ['/', '?', '#'])
    (behind : List Char) :
    (∃ tail, splitHost? (after ++ '@' :: behind) = some (u.host, tail)) ↔
      ∃ port, after = u.host ++ ':' :: port := by
  constructor
  · rintro ⟨tail, hsplit⟩
    have happend : u.host ++ tail = after ++ '@' :: behind := append_of_splitHost? hsplit
    have hhead := mem_of_splitHost? hsplit
    rcases List.append_eq_append_iff.1 happend with ⟨more, rfl, htail⟩ | ⟨more, hhost, htail⟩
    · -- the host ends inside the userinfo, at a colon
      cases more with
      | nil =>
        rw [List.nil_append] at htail
        subst htail
        exact absurd (hhead '@' rfl) (by decide)
      | cons c more =>
        subst htail
        have hcolon := hhead c rfl
        have hinfo := hafter c (by simp)
        obtain rfl : c = ':' := by simp_all
        exact ⟨more, rfl⟩
    · -- the host would reach over the second '@'
      cases more with
      | nil =>
        rw [List.nil_append] at htail
        subst htail
        exact absurd (hhead '@' rfl) (by decide)
      | cons c more =>
        rw [List.cons_append, List.cons.injEq] at htail
        obtain ⟨rfl, -⟩ := htail
        exact absurd (u.host_notMem '@' (by simp [hhost])) (by decide)
  · rintro ⟨port, rfl⟩
    refine ⟨':' :: port ++ '@' :: behind, ?_⟩
    rw [List.append_assoc]
    exact splitHost?_append u.isClosed_host (by simp)

/-- The host of the URL is read if what stands behind the first `@` of the userinfo, when there is
one, spells it. -/
theorem host?_url_eq_iff :
    host? u.url = some (String.ofList u.host) ↔
      ∀ before after, u.userinfo = some (before ++ '@' :: after) → '@' ∉ before →
        ∃ port, after = u.host ++ ':' :: port := by
  have hread : ∀ before after, u.userinfo = some (before ++ '@' :: after) → '@' ∉ before →
      (host? u.url = some (String.ofList u.host) ↔ ∃ port, after = u.host ++ ':' :: port) := by
    intro before after hinfo hfirst
    have hafter : ∀ c ∈ after, c ∉ ['/', '?', '#'] := fun c hc =>
      u.userinfo_chars _ hinfo c (by simp [hc])
    rw [host?_url, u.splitAuthority?_rest_of_at hinfo hfirst,
      ← u.splitHost?_append_at_iff hafter (u.host ++ u.ending)]
    simp [String.ofList_inj]
  by_cases hat : ∃ info ∈ u.userinfo, '@' ∈ info
  · obtain ⟨info, hinfo, hmem⟩ := hat
    obtain ⟨before, after, rfl, hfirst⟩ := List.eq_append_cons_of_mem hmem
    constructor
    · intro hhost before after hinfo hfirst
      exact (hread before after hinfo hfirst).1 hhost
    · intro h
      exact (hread before after hinfo hfirst).2 (h before after hinfo hfirst)
  · have hnone : ∀ info ∈ u.userinfo, '@' ∉ info := fun info hinfo hmem => hat ⟨info, hinfo, hmem⟩
    rw [host?_url, u.splitAuthority?_rest hnone]
    simp only [Option.map_some, true_iff]
    intro before after hinfo
    exact absurd (by simp) (hnone _ hinfo)

/-- **A URL's host is the one its authority names, unless a second `@` ends the userinfo.**  If the
userinfo holds an `@` itself, what is read as the host starts behind that one: it is the host only
if the userinfo spells it there, with a colon behind it.  A host that is read is normalized to its
small letters without the trailing dots, and to nothing if only dots are left. -/
theorem host?_eq_iff :
    (host? u.url = some (String.ofList u.host) ↔
        ∀ before after, u.userinfo = some (before ++ '@' :: after) → '@' ∉ before →
          ∃ port, after = u.host ++ ':' :: port) ∧
      (host? u.url = some (String.ofList u.host) →
        ∀ front n, u.host = front ++ List.replicate n '.' → front.getLast? ≠ some '.' →
          normalizedHost? u.url =
            if front = [] then none else some (String.ofList (front.map Char.toLower))) := by
  refine ⟨u.host?_url_eq_iff, ?_⟩
  intro hhost front n hfront hlast
  rw [normalizedHost?_of_host? hhost, hfront, normalizeHost_append_replicate hlast]
  by_cases hempty : front = []
  · simp [hempty]
  · simp [hempty]

/-- `http://user@corp@example.com/` -/
def twoAts : Composition where
  scheme := "http".toList
  userinfo := some "user@corp".toList
  host := "example.com".toList
  port := none
  tail := "/".toList
  scheme_ne_nil := by decide
  scheme_chars := by simp
  userinfo_chars := by simp
  host_chars := .inl (by simp)
  port_chars := by simp
  tail_head := by simp

/-- The host in brackets stands behind the last `@`, with the port and the tail behind it. -/
def bracketed : Composition where
  scheme := "https".toList
  userinfo := some "User:x".toList
  host := "[2001:DB8::1]".toList
  port := some "8080".toList
  tail := "/a?b@c".toList
  scheme_ne_nil := by decide
  scheme_chars := by simp
  userinfo_chars := by simp
  host_chars := .inr ⟨"2001:DB8::1".toList, by decide, by simp⟩
  port_chars := by simp
  tail_head := by simp

/-- The second `@` of `http://user@corp@example.com/` keeps its host from being read. -/
theorem host?_twoAts_ne :
    twoAts.url = "http://user@corp@example.com/" ∧ host? twoAts.url ≠ some "example.com" ∧
      host? bracketed.url = some "[2001:DB8::1]" ∧
      normalizedHost? bracketed.url = some "[2001:db8::1]" := by
  have hbracketed : host? bracketed.url = some (String.ofList bracketed.host) := by
    refine bracketed.host?_eq_iff.1.2 fun before after hinfo _ => ?_
    have hat : '@' ∈ "User:x".toList := by
      rw [Option.some.inj hinfo]
      simp
    exact absurd hat (by decide)
  refine ⟨by decide, ?_, hbracketed, ?_⟩
  · intro hhost
    obtain ⟨port, hport⟩ :=
      twoAts.host?_eq_iff.1.1 hhost "user".toList "corp".toList rfl (by decide)
    have hlength := congrArg List.length hport
    simp [twoAts] at hlength
  · exact bracketed.host?_eq_iff.2 hbracketed "[2001:DB8::1]".toList 0 (by decide) (by decide)

end Composition
end ContentBlocking.Url
