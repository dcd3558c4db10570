import ContentBlocking.Text.Blank
import ContentBlocking.Text.Measure

/-!
# URLs and their hosts

A URL is cut into four consecutive parts, its `scheme`, its `credentials`, its `host` and its
`tail`, whose concatenation is the URL again (`Url.append_of_splitScheme?`,
`Url.text_of_splitAuthority?`).  All positions are byte offsets, read off the lengths of the parts
before them.
-/

namespace ContentBlocking.Url

/-- The consecutive parts of a URL from its credentials on. -/
structure Parts where
  /-- The credentials with the `@` that ends them, or nothing. -/
  credentials : List Char
  /-- The host, with its brackets if it is an address literal. -/
  host : List Char
  /-- The port, path, query and fragment. -/
  tail : List Char
  deriving DecidableEq, Repr

/-- The characters of the parts in order. -/
def Parts.text (p : Parts) : List Char :=
  p.credentials ++ p.host ++ p.tail

/-- A character that may stand in a scheme. -/
def isSchemeChar (c : Char) : Bool :=
  c.isAlphanum || c == '+' || c == '-' || c == '.'

/-- A character that ends the authority of a URL. -/
def endsAuthority (c : Char) : Bool :=
  c == '/' || c == '?' || c == '#'

/-- A character that ends a host. -/
def endsHost (c : Char) : Bool :=
  endsAuthority c || c == ':'

/-- The scheme of a URL with its `://`, and what follows it. -/
def splitScheme? (url : List Char) : Option (List Char × List Char) :=
  let name := url.takeWhile (· != ':')
  match url.dropWhile (· != ':') with
  | ':' :: '/' :: '/' :: rest =>
    if name ≠ [] ∧ name.all isSchemeChar then some (name ++ [':', '/', '/'], rest) else none
  | _ => none

/-- The credentials at the start of an authority: all up to its first `@`. -/
def splitCredentials (rest : List Char) : List Char × List Char :=
  let before := rest.takeWhile fun c => !(endsAuthority c || c == '@')
  match rest.dropWhile fun c => !(endsAuthority c || c == '@') with
  | '@' :: after => (before ++ ['@'], after)
  | _ => ([], rest)

/-- The host at the start of a text; none if it opens a bracket that nothing closes. -/
def splitHost? (rest : List Char) : Option (List Char × List Char) :=
  match rest with
  | '[' :: _ =>
    match rest.dropWhile (· != ']') with
    | [] => none
    | close :: after =>
      some (rest.takeWhile (· != ']') ++ close :: after.takeWhile (!endsHost ·),
        after.dropWhile (!endsHost ·))
  | _ => some (rest.takeWhile (!endsHost ·), rest.dropWhile (!endsHost ·))

/-- The parts of what follows the scheme. -/
def splitAuthority? (rest : List Char) : Option Parts :=
  let (credentials, rest) := splitCredentials rest
  (splitHost? rest).map fun (host, tail) => ⟨credentials, host, tail⟩

theorem append_of_splitScheme? {url scheme rest : List Char}
    (h : splitScheme? url = some (scheme, rest)) : scheme ++ rest = url := by
  have hs : url.takeWhile (· != ':') ++ url.dropWhile (· != ':') = url :=
    List.takeWhile_append_dropWhile
  simp only [splitScheme?] at h
  split at h
  · next r hr =>
    split at h
    · simp only [Option.some.injEq, Prod.mk.injEq] at h
      obtain ⟨rfl, rfl⟩ := h
      rw [hr] at hs
      simpa using hs
    · cases h
  · cases h

theorem append_splitCredentials (rest : List Char) :
    (splitCredentials rest).1 ++ (splitCredentials rest).2 = rest := by
  have hs := @List.takeWhile_append_dropWhile _ (fun c => !(endsAuthority c || c == '@')) rest
  simp only [splitCredentials]
  split
  · next after h =>
    rw [h] at hs
    simpa using hs
  · rfl

theorem append_of_splitHost? {rest host tail : List Char}
    (h : splitHost? rest = some (host, tail)) : host ++ tail = rest := by
  simp only [splitHost?] at h
  split at h
  · next r =>
    have hs := @List.takeWhile_append_dropWhile _ (· != ']') ('[' :: r)
    split at h
    · cases h
    · next close after hr =>
      simp only [Option.some.injEq, Prod.mk.injEq] at h
      obtain ⟨rfl, rfl⟩ := h
      rw [hr] at hs
      rw [List.append_assoc, List.cons_append, List.takeWhile_append_dropWhile, hs]
  · simp only [Option.some.injEq, Prod.mk.injEq] at h
    obtain ⟨rfl, rfl⟩ := h
    exact List.takeWhile_append_dropWhile

theorem text_of_splitAuthority? {rest : List Char} {parts : Parts}
    (h : splitAuthority? rest = some parts) : parts.text = rest := by
  simp only [splitAuthority?, Option.map_eq_some_iff] at h
  obtain ⟨⟨host, tail⟩, hh, rfl⟩ := h
  rw [Parts.text, List.append_assoc, append_of_splitHost? hh, append_splitCredentials]

/-- The byte offset at which the scheme of a URL ends. -/
def schemeEnd? (url : String) : Option Nat :=
  (splitScheme? url.toList).map fun (scheme, _) => Text.byteLength scheme

/-- The URL with its scheme replaced by `http`. -/
def withHttpScheme? (url : String) : Option String :=
  (splitScheme? url.toList).map fun (_, rest) =>
    String.ofList (['h', 't', 't', 'p', ':', '/', '/'] ++ rest)

/-- The byte offsets at which the host of a URL starts and ends. -/
def hostSpan? (url : String) : Option (Nat × Nat) := do
  let (scheme, rest) ← splitScheme? url.toList
  let parts ← splitAuthority? rest
  let start := Text.byteLength scheme + Text.byteLength parts.credentials
  return (start, start + Text.byteLength parts.host)

/-- The host of a URL, as written. -/
def host? (url : String) : Option String := do
  let (_, rest) ← splitScheme? url.toList
  let parts ← splitAuthority? rest
  return String.ofList parts.host

/-- A host without its trailing dots and in small letters. -/
def normalizeHost (host : List Char) : List Char :=
  (Text.dropRightWhile (· == '.') host).map Char.toLower

/-- The host of a URL in normal form; none if only dots are left of it. -/
def normalizedHost? (url : String) : Option String := do
  let (_, rest) ← splitScheme? url.toList
  let parts ← splitAuthority? rest
  match normalizeHost parts.host with
  | [] => none
  | host => return String.ofList host

end ContentBlocking.Url
