import ContentBlocking.Proofs.Text.Bytes
import ContentBlocking.Proofs.Url.Scheme
import ContentBlocking.Url.Scan
import Mathlib.Tactic.SplitIfs

/-!
# Scans of the bytes of a URL

A scan of the bytes finds the offsets at which the parts of the URL end
(`Url.Scan.schemeEnd?_bytes`, `Url.Scan.hostSpan?_bytes`): each of its steps, begun behind a part,
leads to the end of the next one.  The parts are made of whole characters, so a URL is always cut
between two of them, whatever stands in it (`Url.Scan.cuts_between_characters`).
-/

namespace ContentBlocking.Url.Scan

open Text (bytes byteLength IsAsciiTest)

variable {url : String} {front back name scheme rest : List Char} {p : Char → Bool} {c : Char}
  {n : Nat} {span : Nat × Nat}

/-! ### Tests -/

theorem isAsciiTest_isSchemeChar : IsAsciiTest isSchemeChar :=
  ((Text.isAsciiTest_isAlphanum.or (Text.isAsciiTest_beq (by decide))).or
    (Text.isAsciiTest_beq (by decide))).or (Text.isAsciiTest_beq (by decide))

theorem isAsciiTest_endsAuthority : IsAsciiTest endsAuthority :=
  ((Text.isAsciiTest_beq (by decide)).or (Text.isAsciiTest_beq (by decide))).or
    (Text.isAsciiTest_beq (by decide))

theorem isAsciiTest_endsHost : IsAsciiTest endsHost :=
  isAsciiTest_endsAuthority.or (Text.isAsciiTest_beq (by decide))

/-! ### Steps of a scan -/

/-- The byte behind a part of the URL is tested as the character there. -/
theorem isAt_of_append (hc : c.toNat < 128) (h : url.toList = front ++ back) :
    isAt (bytes url) c (byteLength front) = true ↔ back.head? = some c := by
  rw [isAt, Text.bytes_eq, h, List.flatMap_append, ← Text.length_flatMap_utf8EncodeChar,
    List.getElem?_append_right (Nat.le_refl _), Nat.sub_self]
  cases back with
  | nil => simp
  | cons k back =>
    obtain ⟨b, bs, hbytes⟩ := Text.exists_utf8EncodeChar_eq_cons k
    have hb : (Char.ofUInt8 b == c) = (k == c) :=
      (Text.isAsciiTest_beq hc).eq_of_mem (hbytes ▸ List.mem_cons_self)
    rw [List.flatMap_cons, hbytes, List.cons_append, List.getElem?_cons_zero, Option.any_some, hb,
      beq_iff_eq, List.head?_cons, Option.some.injEq]

/-- The next byte that passes a test is at the next character that passes it. -/
theorem next?_of_append (hp : IsAsciiTest p) (h : url.toList = front ++ back) :
    next? (bytes url) p (byteLength front) =
      if back.dropWhile (!p ·) = [] then none
      else some (byteLength (front ++ back.takeWhile (!p ·))) := by
  rw [next?, Text.bytes_eq, h, List.flatMap_append,
    List.drop_left' (Text.length_flatMap_utf8EncodeChar front), hp.findIdx?_utf8EncodeChar,
    Text.byteLength_append]
  split_ifs <;> rfl

theorem next?_beq_of_append (hc : c.toNat < 128) (h : url.toList = front ++ back) :
    next? (bytes url) (· == c) (byteLength front) =
      if back.dropWhile (· != c) = [] then none
      else some (byteLength (front ++ back.takeWhile (· != c))) :=
  next?_of_append (Text.isAsciiTest_beq hc) h

/-- Without such a byte the scan leads to the end of the URL. -/
theorem getD_next?_of_append (hp : IsAsciiTest p) (h : url.toList = front ++ back) :
    (next? (bytes url) p (byteLength front)).getD (bytes url).length =
      byteLength (front ++ back.takeWhile (!p ·)) := by
  rw [next?_of_append hp h]
  split_ifs with hdrop
  · have htake : back.takeWhile (!p ·) = back := by
      have happend := List.takeWhile_append_dropWhile (p := (!p ·)) (l := back)
      rwa [hdrop, List.append_nil] at happend
    rw [Option.getD_none, htake, ← h, ← Text.utf8ByteSize_eq, Text.length_bytes]
  · rfl

/-- Where a split stops: the rest starts with a character that does not pass. -/
theorem append_of_dropWhile_eq_cons {text after : List Char} (h : text.dropWhile p = c :: after) :
    p c = false ∧ text = text.takeWhile p ++ c :: after := by
  have hhead := List.head?_dropWhile_not p text
  rw [h] at hhead
  exact ⟨hhead, by rw [← h, List.takeWhile_append_dropWhile]⟩

/-! ### The scheme -/

/-- The name of a scheme is tested byte by byte. -/
theorem all_take_bytes (hp : IsAsciiTest p) (h : url.toList = front ++ back) :
    (((bytes url).take (byteLength front)).all fun b => p (Char.ofUInt8 b)) = front.all p := by
  rw [Text.bytes_eq, h, List.flatMap_append,
    List.take_left' (Text.length_flatMap_utf8EncodeChar front), hp.all_utf8EncodeChar]

/-- The two bytes behind a colon are slashes exactly if the two characters are. -/
theorem slashes_iff {after : List Char} (h : url.toList = name ++ ':' :: after) :
    isAt (bytes url) '/' (byteLength name + 1) = true ∧
        isAt (bytes url) '/' (byteLength name + 2) = true ↔
      ∃ rest, after = '/' :: '/' :: rest := by
  have hfirst : isAt (bytes url) '/' (byteLength (name ++ [':'])) = true ↔
      after.head? = some '/' :=
    isAt_of_append (by decide) (by rw [h, List.append_assoc, List.singleton_append])
  have hsecond : ∀ more, after = '/' :: more →
      (isAt (bytes url) '/' (byteLength (name ++ [':', '/'])) = true ↔ more.head? = some '/') := by
    rintro more rfl
    exact isAt_of_append (by decide) (by rw [h, List.append_assoc]; rfl)
  simp only [Text.byteLength_append] at hfirst hsecond
  constructor
  · rintro ⟨hslash, hnext⟩
    obtain ⟨more, rfl⟩ := List.head?_eq_some_iff.1 (hfirst.1 hslash)
    obtain ⟨rest, rfl⟩ := List.head?_eq_some_iff.1 ((hsecond more rfl).1 hnext)
    exact ⟨rest, rfl⟩
  · rintro ⟨rest, rfl⟩
    exact ⟨hfirst.2 rfl, (hsecond _ rfl).2 rfl⟩

/-- **The scan finds the end of the scheme.** -/
theorem schemeEnd?_bytes (url : String) : schemeEnd? (bytes url) = Url.schemeEnd? url := by
  have hcolon := next?_beq_of_append (c := ':') (by decide) (List.nil_append url.toList).symm
  rw [Text.byteLength_nil, List.nil_append] at hcolon
  rw [schemeEnd?, hcolon, Url.schemeEnd?, splitScheme?]
  cases hdrop : url.toList.dropWhile (· != ':') with
  | nil => simp
  | cons c after =>
    obtain ⟨hstop, happend⟩ := append_of_dropWhile_eq_cons hdrop
    obtain rfl : c = ':' := by simpa using hstop
    have hslashes := slashes_iff happend
    rw [if_neg (List.cons_ne_nil ':' after), Option.bind_eq_bind, Option.bind_some]
    simp only [all_take_bytes isAsciiTest_isSchemeChar happend, Text.byteLength_ne_zero_iff]
    -- both sides have a scheme only in front of two slashes, and then under the same condition
    by_cases hrest : ∃ rest, after = '/' :: '/' :: rest
    · have hboth := hslashes.2 hrest
      obtain ⟨rest, rfl⟩ := hrest
      simp only [hboth, and_true]
      split_ifs
      · rw [Option.map_some, Text.byteLength_append]
        rfl
      · rfl
    · rw [if_neg (fun hscheme => hrest (hslashes.1 hscheme.2))]
      split
      · next rest hcons => exact absurd ⟨rest, (List.cons.inj hcons).2⟩ hrest
      · rfl

/-! ### The host -/

/-- The host starts behind the credentials. -/
theorem hostStart_of_append (h : url.toList = scheme ++ rest) :
    hostStart (bytes url) (byteLength scheme) =
      byteLength (scheme ++ (splitCredentials rest).1) := by
  have hp : IsAsciiTest fun c => endsAuthority c || c == '@' :=
    isAsciiTest_endsAuthority.or (Text.isAsciiTest_beq (by decide))
  rw [hostStart, next?_of_append hp h, splitCredentials]
  cases hdrop : rest.dropWhile fun c => !(endsAuthority c || c == '@') with
  | nil => simp
  | cons c after =>
    rw [(append_of_dropWhile_eq_cons hdrop).2, ← List.append_assoc] at h
    have hat := isAt_of_append (c := '@') (by decide) h
    -- credentials only end at an `@`: any other character that is found ends the authority
    rw [if_neg (List.cons_ne_nil c after)]
    simp only [hat, List.head?_cons, Option.some.injEq]
    by_cases hc : c = '@'
    · subst hc
      simp only [if_true]
      rw [← List.append_assoc, Text.byteLength_append _ ['@']]
      rfl
    · rw [if_neg hc]
      split
      · next hcons => exact absurd (List.cons.inj hcons).1 hc
      · rw [List.append_nil]

/-- The host ends in front of its tail, which is not looked for inside of brackets. -/
theorem hostEnd_of_append (h : url.toList = front ++ rest) :
    (bracketEnd? (bytes url) (byteLength front)).map
        (fun behind => (next? (bytes url) endsHost behind).getD (bytes url).length) =
      (splitHost? rest).map fun parts => byteLength (front ++ parts.1) := by
  have hopen : isAt (bytes url) '[' (byteLength front) = true ↔ rest.head? = some '[' :=
    isAt_of_append (by decide) h
  rw [bracketEnd?]
  by_cases hhead : rest.head? = some '['
  · obtain ⟨r, rfl⟩ := List.head?_eq_some_iff.1 hhead
    rw [if_pos (hopen.2 rfl), next?_beq_of_append (by decide) h, splitHost?]
    cases hdrop : ('[' :: r).dropWhile (· != ']') with
    | nil => rfl
    | cons c after =>
      obtain ⟨hstop, happend⟩ := append_of_dropWhile_eq_cons hdrop
      obtain rfl : c = ']' := by simpa using hstop
      have hbehind : url.toList = front ++ ('[' :: r).takeWhile (· != ']') ++ [']'] ++ after := by
        rw [List.append_assoc, List.append_assoc, List.singleton_append, ← happend, h]
      have hend := getD_next?_of_append isAsciiTest_endsHost hbehind
      rw [Text.byteLength_append _ [']'], List.append_assoc, List.append_assoc] at hend
      rw [if_neg (List.cons_ne_nil _ _)]
      simp only [Option.map_some]
      exact congrArg some hend
  · rw [if_neg (fun hbracket => hhead (hopen.1 hbracket)), splitHost?]
    · rw [Option.map_some, Option.map_some, getD_next?_of_append isAsciiTest_endsHost h]
    · rintro r rfl
      exact hhead rfl

/-- **The scan finds the ends of the host.** -/
theorem hostSpan?_bytes (url : String) : hostSpan? (bytes url) = Url.hostSpan? url := by
  rw [hostSpan?, schemeEnd?_bytes, Url.schemeEnd?]
  cases hsplit : splitScheme? url.toList with
  | none => simp [Url.hostSpan?, hsplit]
  | some parts =>
    obtain ⟨scheme, rest⟩ := parts
    have happend := (append_of_splitScheme? hsplit).symm
    have hhost : url.toList = scheme ++ (splitCredentials rest).1 ++ (splitCredentials rest).2 := by
      rw [happend, List.append_assoc, append_splitCredentials]
    have hend := hostEnd_of_append hhost
    simp only [Option.map_some, Option.bind_eq_bind, Option.bind_some, Option.pure_def]
    rw [hostSpan?_of_splitScheme? hsplit, hostStart_of_append happend, splitAuthority?,
      Option.map_map]
    -- the end is computed from the place behind the brackets, the start is the same throughout
    calc
      _ = ((bracketEnd? (bytes url) (byteLength (scheme ++ (splitCredentials rest).1))).map
            fun behind => (next? (bytes url) endsHost behind).getD (bytes url).length).map
          (byteLength (scheme ++ (splitCredentials rest).1), ·) := by
        rw [Option.map_map]
        exact Option.map_eq_bind.symm
      _ = _ := by
        rw [hend, Option.map_map]
        refine congrArg (Option.map · _) (funext fun parts => ?_)
        simp only [Function.comp_apply, Text.byteLength_append]

/-! ### Bounds -/

/-- A URL is its scheme and the parts behind it. -/
theorem toList_eq_of_split {parts : Parts} (hscheme : splitScheme? url.toList = some (scheme, rest))
    (hauthority : splitAuthority? rest = some parts) :
    url.toList = scheme ++ parts.credentials ++ (parts.host ++ parts.tail) := by
  rw [← append_of_splitScheme? hscheme, ← text_of_splitAuthority? hauthority, Parts.text,
    List.append_assoc, List.append_assoc]

theorem ne_nil_of_splitScheme? {text : List Char} (h : splitScheme? text = some (scheme, rest)) :
    scheme ≠ [] := by
  rintro rfl
  simp only [splitScheme?] at h
  split at h
  · split_ifs at h
    simp at h
  · cases h

/-- A scheme ends in the URL, between two characters. -/
theorem bounds_of_schemeEnd? (h : Url.schemeEnd? url = some n) :
    0 < n ∧ n ≤ url.utf8ByteSize ∧ String.Pos.Raw.IsValid url ⟨n⟩ := by
  obtain ⟨⟨scheme, rest⟩, hsplit, rfl⟩ := Option.map_eq_some_iff.1 h
  have hvalid := Text.isValid_of_append (append_of_splitScheme? hsplit).symm
  have hpos := Text.byteLength_ne_zero_iff.2 (ne_nil_of_splitScheme? hsplit)
  exact ⟨Nat.pos_of_ne_zero hpos, hvalid.le_utf8ByteSize, hvalid⟩

/-- A host starts behind the scheme and ends in the URL, each between two characters. -/
theorem bounds_of_hostSpan? (h : Url.hostSpan? url = some span) :
    ∃ n, Url.schemeEnd? url = some n ∧ n ≤ span.1 ∧ span.1 ≤ span.2 ∧
      span.2 ≤ url.utf8ByteSize ∧ String.Pos.Raw.IsValid url ⟨span.1⟩ ∧
      String.Pos.Raw.IsValid url ⟨span.2⟩ := by
  cases hsplit : splitScheme? url.toList with
  | none => simp [Url.hostSpan?, hsplit] at h
  | some split =>
    obtain ⟨scheme, rest⟩ := split
    have hscheme : Url.schemeEnd? url = some (byteLength scheme) := by
      rw [Url.schemeEnd?, hsplit]
      rfl
    obtain ⟨hbehind, horder⟩ := le_of_hostSpan? hscheme h
    rw [hostSpan?_of_splitScheme? hsplit, Option.map_eq_some_iff] at h
    obtain ⟨parts, hauthority, rfl⟩ := h
    have happend := toList_eq_of_split hsplit hauthority
    have hfirst := Text.isValid_of_append happend
    rw [← List.append_assoc] at happend
    have hlast := Text.isValid_of_append happend
    rw [Text.byteLength_append, Text.byteLength_append] at hlast
    rw [Text.byteLength_append] at hfirst
    exact ⟨_, hscheme, hbehind, horder, hlast.le_utf8ByteSize, hfirst, hlast⟩

/-! ### Cuts -/

/-- The URL can be cut behind its scheme. -/
theorem withHttpScheme_eq (url : String) : withHttpScheme url = .ok (withHttpScheme? url) := by
  rw [withHttpScheme, schemeEnd?_bytes, Url.schemeEnd?, withHttpScheme?]
  cases hsplit : splitScheme? url.toList with
  | none => rfl
  | some parts =>
    obtain ⟨scheme, rest⟩ := parts
    have happend : url.toList = scheme ++ (rest ++ []) := by
      rw [List.append_nil, append_of_splitScheme? hsplit]
    have hsize : url.utf8ByteSize = byteLength scheme + byteLength rest := by
      rw [Text.utf8ByteSize_eq, happend, List.append_nil, Text.byteLength_append]
    simp only [Option.map_some, Option.mapM_some, hsize, Text.cut_of_append happend,
      String.ofList_append]
    rfl

/-- The host can be cut out of the URL. -/
theorem host_eq (url : String) : host url = .ok (host? url) := by
  rw [host, hostSpan?_bytes, host?]
  cases hsplit : splitScheme? url.toList with
  | none =>
    simp only [Url.hostSpan?, hsplit]
    rfl
  | some split =>
    obtain ⟨scheme, rest⟩ := split
    rw [hostSpan?_of_splitScheme? hsplit]
    simp only [Option.bind_eq_bind, Option.bind_some]
    cases hauthority : splitAuthority? rest with
    | none => rfl
    | some parts =>
      have hcut := Text.cut_of_append (toList_eq_of_split hsplit hauthority)
      rw [Text.byteLength_append] at hcut
      simp only [Option.map_some, Option.mapM_some, hcut]
      rfl

/-- **A URL is cut between its characters.**  A scan of the bytes yields the offsets at which the
parts of the URL end; they stand in order in it and never inside a character.  So no cut fails, and
the texts that are cut out are those of the parts. -/
theorem cuts_between_characters (url : String) :
    schemeEnd? (bytes url) = Url.schemeEnd? url ∧ hostSpan? (bytes url) = Url.hostSpan? url ∧
      (∀ n ∈ schemeEnd? (bytes url),
        0 < n ∧ n ≤ url.utf8ByteSize ∧ String.Pos.Raw.IsValid url ⟨n⟩) ∧
      (∀ span ∈ hostSpan? (bytes url), ∃ n ∈ schemeEnd? (bytes url),
        0 < n ∧ n ≤ span.1 ∧ span.1 ≤ span.2 ∧ span.2 ≤ url.utf8ByteSize ∧
          String.Pos.Raw.IsValid url ⟨span.1⟩ ∧ String.Pos.Raw.IsValid url ⟨span.2⟩) ∧
      withHttpScheme url = .ok (withHttpScheme? url) ∧ host url = .ok (host? url) := by
  rw [schemeEnd?_bytes, hostSpan?_bytes]
  refine ⟨rfl, rfl, fun n hn => bounds_of_schemeEnd? hn, fun span hspan => ?_,
    withHttpScheme_eq url, host_eq url⟩
  obtain ⟨n, hn, hchain⟩ := bounds_of_hostSpan? hspan
  exact ⟨n, hn, (bounds_of_schemeEnd? hn).1, hchain⟩

/-- Characters of two and three bytes in the credentials and around the brackets of an address. -/
theorem cuts_between_characters_of_brackets :
    let url := "wss+x://\u00fc:p@[\u00e9::1]\u20ac:80/@"
    schemeEnd? (bytes url) = some 8 ∧ hostSpan? (bytes url) = some (13, 23) ∧
      (0 < 8 ∧ 8 ≤ url.utf8ByteSize ∧ String.Pos.Raw.IsValid url ⟨8⟩) ∧
      (0 < 8 ∧ 8 ≤ 13 ∧ 13 ≤ 23 ∧ 23 ≤ url.utf8ByteSize ∧ String.Pos.Raw.IsValid url ⟨13⟩ ∧
        String.Pos.Raw.IsValid url ⟨23⟩) ∧
      withHttpScheme url = .ok (some "http://\u00fc:p@[\u00e9::1]\u20ac:80/@") ∧
      host url = .ok (some "[\u00e9::1]\u20ac") := by
  intro url
  obtain ⟨-, -, hends, hchains, hhttp, hhost⟩ := cuts_between_characters url
  have hend : schemeEnd? (bytes url) = some 8 := by decide
  have hspan : hostSpan? (bytes url) = some (13, 23) := by decide
  obtain ⟨n, hn, hchain⟩ := hchains _ hspan
  obtain rfl : 8 = n := Option.some.inj (hend.symm.trans hn)
  have htext : withHttpScheme? url = some "http://\u00fc:p@[\u00e9::1]\u20ac:80/@" := by
    decide
  have hname : host? url = some "[\u00e9::1]\u20ac" := by decide
  rw [htext] at hhttp
  rw [hname] at hhost
  exact ⟨hend, hspan, hends 8 hend, hchain, hhttp, hhost⟩

end ContentBlocking.Url.Scan
