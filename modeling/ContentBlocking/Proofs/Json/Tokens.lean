import ContentBlocking.Json.Node
import ContentBlocking.Proofs.Success
import Mathlib.Data.List.TakeDrop
import Mathlib.Data.List.TakeWhile

/-!
# The tokens of JSON

The grammar of JSON says how a numeral and a quoted text may be spelled, and that white space may
stand between the tokens.  The readers of both tokens read what is spelled so, in front of any text
that does not go on with the token, and nothing else:

* `readNumeral_of_spelledAs` and `Numeral.spelledAs_of_readNumeral`: numerals;
* `readQuoted_of_spelled` and `exists_spelled_of_readQuoted`: quoted texts, behind the first quote;
* `readWord_eq_ok_iff`: the words `null`, `true` and `false`.
-/

namespace ContentBlocking.Json

/-! ### White space -/

/-- White space, perhaps none. -/
def IsSpacing (cs : List Char) : Prop := ∀ c ∈ cs, isSpace c = true

section Spacing

variable {cs rest : List Char} {c : Char}

theorem IsSpacing.nil : IsSpacing [] := by simp [IsSpacing]

theorem IsSpacing.append {before after : List Char} (hb : IsSpacing before)
    (ha : IsSpacing after) : IsSpacing (before ++ after) := by
  intro c hc
  rcases List.mem_append.1 hc with hc | hc
  · exact hb c hc
  · exact ha c hc

theorem skipSpace_append (h : IsSpacing cs) (rest : List Char) :
    skipSpace (cs ++ rest) = skipSpace rest :=
  List.dropWhile_append_of_pos h

theorem skipSpace_cons (h : isSpace c = false) (rest : List Char) :
    skipSpace (c :: rest) = c :: rest := by simp [skipSpace, h]

theorem skipSpace_of_isSpacing (h : IsSpacing cs) : skipSpace cs = [] := by
  have hskip := skipSpace_append h []
  rwa [List.append_nil] at hskip

/-- What is skipped is white space. -/
theorem exists_append_skipSpace (cs : List Char) :
    ∃ before, IsSpacing before ∧ cs = before ++ skipSpace cs :=
  ⟨cs.takeWhile isSpace, fun _ hc => List.mem_takeWhile_imp hc,
    List.takeWhile_append_dropWhile.symm⟩

theorem skipSpace_skipSpace (cs : List Char) : skipSpace (skipSpace cs) = skipSpace cs := by
  obtain ⟨before, hbefore, heq⟩ := exists_append_skipSpace cs
  conv_rhs => rw [heq, skipSpace_append hbefore]

end Spacing

/-! ### Numerals -/

/-- The parts of a numeral obey the grammar. -/
structure Numeral.Regular (n : Numeral) : Prop where
  whole_ne_nil : n.whole ≠ []
  whole_digits : ∀ c ∈ n.whole, c.isDigit = true
  /-- A zero at the front stands alone. -/
  whole_zero : ∀ d ds, n.whole ≠ '0' :: d :: ds
  fraction_digits : ∀ c ∈ n.fraction, c.isDigit = true
  exponent_digits : ∀ s ds, n.exponent = some (s, ds) → ds ≠ [] ∧ ∀ c ∈ ds, c.isDigit = true

/-- The characters of a sign. -/
def signText (negative : Bool) : List Char := if negative then ['-'] else []

/-- The characters of a fraction. -/
def fractionText (fraction : List Char) : List Char :=
  if fraction = [] then [] else '.' :: fraction

/-- The ways to spell the sign of an exponent. -/
inductive SpelledSign : Bool → List Char → Prop
  | minus : SpelledSign true ['-']
  | plus : SpelledSign false ['+']
  | absent : SpelledSign false []

/-- The ways to spell an exponent. -/
inductive SpelledExponent : Option (Bool × List Char) → List Char → Prop
  | absent : SpelledExponent none []
  | present {letter : Char} {negative : Bool} {sign digits : List Char}
      (hletter : letter = 'e' ∨ letter = 'E') (hsign : SpelledSign negative sign) :
      SpelledExponent (some (negative, digits)) (letter :: (sign ++ digits))

/-- The ways to spell a numeral. -/
structure Numeral.SpelledAs (n : Numeral) (cs : List Char) : Prop where
  regular : n.Regular
  spelled : ∃ exponent, SpelledExponent n.exponent exponent ∧
    cs = signText n.negative ++ (n.whole ++ (fractionText n.fraction ++ exponent))

/-- A character that may stand in a numeral after its first digit. -/
def continuesNumeral (c : Char) : Bool :=
  c.isDigit || c == '.' || c == 'e' || c == 'E'

/-- A text that does not go on with a numeral. -/
def EndsNumeral (rest : List Char) : Prop := ∀ c ∈ rest.head?, continuesNumeral c = false

section Numerals

variable {n : Numeral} {cs ds rest : List Char}

theorem continuesNumeral_eq_false_iff {c : Char} : continuesNumeral c = false ↔
    c.isDigit = false ∧ c ≠ '.' ∧ c ≠ 'e' ∧ c ≠ 'E' := by
  simp [continuesNumeral, and_assoc]

theorem ne_of_isDigit {d c : Char} (hd : d.isDigit = true) (hc : c.isDigit = false) : d ≠ c := by
  rintro rfl
  exact absurd (hd.symm.trans hc) (by decide)

theorem EndsNumeral.nil : EndsNumeral [] := by simp [EndsNumeral]

theorem EndsNumeral.cons {c : Char} (h : continuesNumeral c = false) (rest : List Char) :
    EndsNumeral (c :: rest) := by simpa [EndsNumeral] using h

/-- White space ends a numeral. -/
theorem EndsNumeral.spacing_append (h : EndsNumeral rest) {after : List Char}
    (hafter : IsSpacing after) : EndsNumeral (after ++ rest) := by
  cases after with
  | nil => exact h
  | cons c after =>
    refine EndsNumeral.cons ?_ _
    have hspace := hafter c List.mem_cons_self
    simp only [isSpace, Bool.or_eq_true, beq_iff_eq] at hspace
    rcases hspace with ((rfl | rfl) | rfl) | rfl <;> decide

theorem EndsNumeral.not_digit (h : EndsNumeral rest) : ∀ c ∈ rest.head?, c.isDigit = false :=
  fun c hc => (continuesNumeral_eq_false_iff.1 (h c hc)).1

theorem spanDigits_append (hd : ∀ c ∈ ds, c.isDigit = true)
    (hr : ∀ c ∈ rest.head?, c.isDigit = false) : spanDigits (ds ++ rest) = (ds, rest) := by
  have hempty : rest.takeWhile Char.isDigit = [] ∧ rest.dropWhile Char.isDigit = rest := by
    cases rest with
    | nil => simp
    | cons c cs => simp [hr c (by simp)]
  rw [spanDigits, List.span_eq_takeWhile_dropWhile, List.takeWhile_append_of_pos hd,
    List.dropWhile_append_of_pos hd, hempty.1, hempty.2, List.append_nil]

/-- What is read as digits are digits. -/
theorem spanDigits_eq (h : spanDigits cs = (ds, rest)) :
    (∀ c ∈ ds, c.isDigit = true) ∧ cs = ds ++ rest := by
  rw [spanDigits, List.span_eq_takeWhile_dropWhile, Prod.mk.injEq] at h
  obtain ⟨rfl, rfl⟩ := h
  exact ⟨fun _ hc => List.mem_takeWhile_imp hc, List.takeWhile_append_dropWhile.symm⟩

/-! #### The parts of a numeral -/

/-- A text that starts with neither letter has no exponent in front. -/
theorem readExponent_of_ne_letter (h : ∀ c ∈ cs.head?, c ≠ 'e' ∧ c ≠ 'E') :
    readExponent cs = .ok (none, cs) := by
  cases cs with
  | nil => rfl
  | cons c cs =>
    obtain ⟨hsmall, hlarge⟩ := h c rfl
    simp only [readExponent]
    split
    · next heq => exact absurd (List.cons.inj heq).1 hsmall
    · next heq => exact absurd (List.cons.inj heq).1 hlarge
    · rfl

theorem readExponent_of_endsNumeral (h : EndsNumeral rest) :
    readExponent rest = .ok (none, rest) :=
  readExponent_of_ne_letter fun c hc => (continuesNumeral_eq_false_iff.1 (h c hc)).2.2

/-- Behind its letter and its sign, which may be left out, an exponent has digits. -/
theorem readExponent_letter_sign {letter : Char} {negative : Bool} {sign : List Char}
    (hletter : letter = 'e' ∨ letter = 'E') (hsign : SpelledSign negative sign)
    (htail : sign = [] → ∀ c ∈ rest.head?, c ≠ '-' ∧ c ≠ '+') :
    readExponent (letter :: (sign ++ rest)) = match spanDigits rest with
      | ([], rest) => .error rest.isEmpty
      | (digits, rest) => .ok (some (negative, digits), rest) := by
  cases hsign with
  | minus => rcases hletter with rfl | rfl <;> rfl
  | plus => rcases hletter with rfl | rfl <;> rfl
  | absent =>
    have hminus : ∀ tail, rest ≠ '-' :: tail := by
      rintro tail rfl
      exact (htail rfl '-' rfl).1 rfl
    have hplus : ∀ tail, rest ≠ '+' :: tail := by
      rintro tail rfl
      exact (htail rfl '+' rfl).2 rfl
    cases hspan : spanDigits rest with
    | mk digits after =>
      rcases hletter with rfl | rfl <;> cases digits <;>
        simp only [List.nil_append, readExponent, hspan]

theorem readExponent_of_spelled {e : Option (Bool × List Char)}
    (he : ∀ s ds, e = some (s, ds) → ds ≠ [] ∧ ∀ c ∈ ds, c.isDigit = true)
    (hcs : SpelledExponent e cs) (hr : EndsNumeral rest) :
    readExponent (cs ++ rest) = .ok (e, rest) := by
  cases hcs with
  | absent => exact readExponent_of_endsNumeral hr
  | @present letter negative sign digits hletter hsign =>
    obtain ⟨hne, hd⟩ := he negative digits rfl
    obtain ⟨d, digits, rfl⟩ := List.exists_cons_of_ne_nil hne
    have hspan := spanDigits_append hd hr.not_digit
    have htail : ∀ c ∈ (d :: digits ++ rest).head?, c ≠ '-' ∧ c ≠ '+' := by
      intro c hc
      obtain rfl : d = c := Option.some.inj hc
      have hdigit := hd d List.mem_cons_self
      exact ⟨ne_of_isDigit hdigit (by decide), ne_of_isDigit hdigit (by decide)⟩
    have hread := readExponent_letter_sign hletter hsign fun _ => htail
    rw [hspan] at hread
    rw [List.cons_append, List.append_assoc]
    exact hread

/-- Every text has a sign in front, which may be left out where none is seen. -/
theorem exists_sign_append (cs : List Char) : ∃ negative sign rest, SpelledSign negative sign ∧
    cs = sign ++ rest ∧ (sign = [] → ∀ c ∈ rest.head?, c ≠ '-' ∧ c ≠ '+') := by
  by_cases hminus : ∃ rest, cs = '-' :: rest
  · obtain ⟨rest, rfl⟩ := hminus
    exact ⟨true, ['-'], rest, .minus, rfl, fun h => by cases h⟩
  · by_cases hplus : ∃ rest, cs = '+' :: rest
    · obtain ⟨rest, rfl⟩ := hplus
      exact ⟨false, ['+'], rest, .plus, rfl, fun h => by cases h⟩
    · refine ⟨false, [], cs, .absent, rfl, fun _ c hc => ⟨?_, ?_⟩⟩
      · rintro rfl
        exact hminus (List.head?_eq_some_iff.1 hc)
      · rintro rfl
        exact hplus (List.head?_eq_some_iff.1 hc)

theorem spelled_of_readExponent {e : Option (Bool × List Char)}
    (h : readExponent cs = .ok (e, rest)) :
    (∀ s ds, e = some (s, ds) → ds ≠ [] ∧ ∀ c ∈ ds, c.isDigit = true) ∧
      ∃ exponent, SpelledExponent e exponent ∧ cs = exponent ++ rest := by
  cases cs with
  | nil =>
    cases h
    exact ⟨by simp, [], .absent, rfl⟩
  | cons letter tail =>
    by_cases hletter : letter = 'e' ∨ letter = 'E'
    · obtain ⟨negative, sign, tail, hsign, rfl, htail⟩ := exists_sign_append tail
      rw [readExponent_letter_sign hletter hsign htail] at h
      split at h
      · cases h
      · next digits after hne hspan =>
        obtain ⟨hdigits, rfl⟩ := spanDigits_eq hspan
        cases h
        refine ⟨?_, _, .present hletter hsign, by simp⟩
        rintro s ds heq
        cases heq
        exact ⟨fun hnil => hne hnil, hdigits⟩
    · have hread : readExponent (letter :: tail) = .ok (none, letter :: tail) := by
        refine readExponent_of_ne_letter fun c hc => ?_
        obtain rfl : letter = c := Option.some.inj hc
        exact not_or.1 hletter
      rw [hread] at h
      cases h
      exact ⟨by simp, [], .absent, rfl⟩

theorem spelledExponent_append_head {e : Option (Bool × List Char)} (h : SpelledExponent e cs)
    (hr : EndsNumeral rest) : ∀ c ∈ (cs ++ rest).head?, c.isDigit = false ∧ c ≠ '.' := by
  intro c hc
  cases h with
  | absent =>
    obtain ⟨hdigit, hpoint, -⟩ := continuesNumeral_eq_false_iff.1 (hr c hc)
    exact ⟨hdigit, hpoint⟩
  | present hletter =>
    simp only [List.cons_append, List.head?_cons, Option.mem_def, Option.some.injEq] at hc
    subst hc
    rcases hletter with rfl | rfl <;> decide

theorem readFraction_of_ne_point (h : ∀ c ∈ rest.head?, c ≠ '.') :
    readFraction rest = .ok ([], rest) := by
  cases rest with
  | nil => rfl
  | cons c cs =>
    simp only [readFraction]
    split
    · next heq => exact absurd (List.cons.inj heq).1 (h c (by simp))
    · rfl

theorem readFraction_fractionText (hd : ∀ c ∈ ds, c.isDigit = true)
    (hr : ∀ c ∈ rest.head?, c.isDigit = false ∧ c ≠ '.') :
    readFraction (fractionText ds ++ rest) = .ok (ds, rest) := by
  cases ds with
  | nil => exact readFraction_of_ne_point fun c hc => (hr c hc).2
  | cons d ds =>
    have hspan := spanDigits_append hd fun c hc => (hr c hc).1
    rw [List.cons_append] at hspan
    have hread : readFraction (fractionText (d :: ds) ++ rest) =
        match spanDigits (d :: (ds ++ rest)) with
        | ([], rest) => .error rest.isEmpty
        | (digits, rest) => .ok (digits, rest) := rfl
    rw [hread, hspan]

theorem fractionText_of_readFraction (h : readFraction cs = .ok (ds, rest)) :
    (∀ c ∈ ds, c.isDigit = true) ∧ cs = fractionText ds ++ rest := by
  unfold readFraction at h
  split at h
  · split at h
    · cases h
    · next digits after hne hspan =>
      obtain ⟨hdigits, rfl⟩ := spanDigits_eq hspan
      cases h
      rw [fractionText, if_neg hne]
      exact ⟨hdigits, rfl⟩
  · cases h
    exact ⟨by simp, rfl⟩

theorem fractionText_append_head (hr : ∀ c ∈ rest.head?, c.isDigit = false ∧ c ≠ '.') :
    ∀ c ∈ (fractionText ds ++ rest).head?, c.isDigit = false := by
  intro c hc
  cases ds with
  | nil => exact (hr c hc).1
  | cons d ds =>
    simp only [fractionText, reduceCtorEq, ↓reduceIte, List.cons_append, List.head?_cons,
      Option.mem_def, Option.some.injEq] at hc
    subst hc
    decide

theorem readWhole_append (h : n.Regular) (hr : ∀ c ∈ rest.head?, c.isDigit = false) :
    readWhole (n.whole ++ rest) = .ok (n.whole, rest) := by
  obtain ⟨d, ds, hw⟩ := List.exists_cons_of_ne_nil h.whole_ne_nil
  have hz := h.whole_zero
  rw [readWhole, spanDigits_append h.whole_digits hr, hw]
  split
  · next heq => simp at heq
  · next heq => exact absurd (hw.trans (Prod.mk.inj heq).1) (hz _ _)
  · next heq =>
    obtain ⟨rfl, rfl⟩ := Prod.mk.inj heq
    rfl

theorem whole_of_readWhole (h : readWhole cs = .ok (ds, rest)) :
    ds ≠ [] ∧ (∀ c ∈ ds, c.isDigit = true) ∧ (∀ d ds', ds ≠ '0' :: d :: ds') ∧ cs = ds ++ rest := by
  unfold readWhole at h
  split at h
  · cases h
  · cases h
  · next digits after hne hzero hspan =>
    obtain ⟨hdigits, rfl⟩ := spanDigits_eq hspan
    cases h
    exact ⟨hne, hdigits, hzero, rfl⟩

/-! #### Whole numerals -/

/-- The numeral behind its sign. -/
def readUnsigned (negative : Bool) (cs : List Char) : Except Bool (Numeral × List Char) := do
  let (whole, rest) ← readWhole cs
  let (fraction, rest) ← readFraction rest
  let (exponent, rest) ← readExponent rest
  return (⟨negative, whole, fraction, exponent⟩, rest)

theorem readNumeral_signText (negative : Bool) (h : cs.head? ≠ some '-') :
    readNumeral (signText negative ++ cs) = readUnsigned negative cs := by
  cases negative with
  | true => rfl
  | false =>
    show readNumeral cs = readUnsigned false cs
    rw [readNumeral]
    · rfl
    · rintro tail rfl
      exact h rfl

/-- A text has its sign read first. -/
theorem exists_readNumeral_eq (cs : List Char) : ∃ negative tail,
    cs = signText negative ++ tail ∧ readNumeral cs = readUnsigned negative tail := by
  by_cases hminus : ∃ tail, cs = '-' :: tail
  · obtain ⟨tail, rfl⟩ := hminus
    exact ⟨true, tail, rfl, rfl⟩
  · refine ⟨false, cs, rfl, readNumeral_signText false fun hhead => hminus ?_⟩
    obtain ⟨tail, rfl⟩ := List.head?_eq_some_iff.1 hhead
    exact ⟨tail, rfl⟩

/-- A numeral that is spelled is read. -/
theorem readNumeral_of_spelledAs (h : n.SpelledAs cs) (hr : EndsNumeral rest) :
    readNumeral (cs ++ rest) = .ok (n, rest) := by
  obtain ⟨hregular, exponent, hexponent, rfl⟩ := h
  have hhead := spelledExponent_append_head hexponent hr
  have he := readExponent_of_spelled hregular.exponent_digits hexponent hr
  have hf := readFraction_fractionText hregular.fraction_digits hhead
  have hfront : ∀ c ∈ (fractionText n.fraction ++ (exponent ++ rest)).head?, c.isDigit = false :=
    fractionText_append_head hhead
  have hw := readWhole_append hregular hfront
  have hminus : (n.whole ++ (fractionText n.fraction ++ (exponent ++ rest))).head? ≠ some '-' := by
    obtain ⟨d, ds, hd⟩ := List.exists_cons_of_ne_nil hregular.whole_ne_nil
    rw [hd, List.cons_append, List.head?_cons, ne_eq, Option.some_inj]
    exact ne_of_isDigit (hregular.whole_digits d (by simp [hd])) (by decide)
  simp only [List.append_assoc]
  rw [readNumeral_signText _ hminus]
  exact bind_eq_ok.2 ⟨_, hw, bind_eq_ok.2 ⟨_, hf, bind_eq_ok.2 ⟨_, he, rfl⟩⟩⟩

/-- A numeral that is read is spelled so. -/
theorem Numeral.spelledAs_of_readNumeral (h : readNumeral cs = .ok (n, rest)) :
    ∃ chars, n.SpelledAs chars ∧ cs = chars ++ rest := by
  obtain ⟨negative, tail, rfl, hread⟩ := exists_readNumeral_eq cs
  rw [hread] at h
  obtain ⟨⟨whole, rest₁⟩, hw, h⟩ := bind_eq_ok.1 h
  obtain ⟨⟨fraction, rest₂⟩, hf, h⟩ := bind_eq_ok.1 h
  obtain ⟨⟨e, rest₃⟩, he, h⟩ := bind_eq_ok.1 h
  obtain ⟨rfl, rfl⟩ := Prod.mk.inj (pure_eq_ok_iff.1 h)
  obtain ⟨hne, hdigits, hzero, rfl⟩ := whole_of_readWhole hw
  obtain ⟨hfraction, rfl⟩ := fractionText_of_readFraction hf
  obtain ⟨hexponent, exponent, hspelled, rfl⟩ := spelled_of_readExponent he
  exact ⟨_, ⟨⟨hne, hdigits, hzero, hfraction, hexponent⟩, exponent, hspelled, rfl⟩, by simp⟩

/-- A numeral starts with its sign or a digit. -/
theorem Numeral.SpelledAs.exists_cons (h : n.SpelledAs cs) :
    ∃ c tail, cs = c :: tail ∧ (c = '-' ∨ c.isDigit = true) := by
  obtain ⟨hregular, exponent, -, rfl⟩ := h
  obtain ⟨d, ds, hd⟩ := List.exists_cons_of_ne_nil hregular.whole_ne_nil
  cases n.negative with
  | true => exact ⟨'-', _, rfl, .inl rfl⟩
  | false => exact ⟨d, _, by rw [hd]; rfl, .inr (hregular.whole_digits d (by simp [hd]))⟩

end Numerals

/-! ### Quoted texts -/

/-- The ways to spell a piece of a quoted text. -/
inductive Piece.SpelledAs : Piece → List Char → Prop
  | plain {c : Char} (hcontrol : 0x20 ≤ c.toNat) (hquote : c ≠ '"') (hbackslash : c ≠ '\\') :
      SpelledAs (.char c) [c]
  | letter {e c : Char} (h : escaped? e = some c) : SpelledAs (.char c) ['\\', e]
  | digits {a b c d : Char} {code : Nat} (h : hexUnit? a b c d = some code) :
      SpelledAs (.unit code) ['\\', 'u', a, b, c, d]

/-- The ways to spell what stands between two quotes. -/
inductive SpelledPieces : List Piece → List Char → Prop
  | nil : SpelledPieces [] []
  | cons {p : Piece} {ps : List Piece} {cs cs' : List Char} (hp : p.SpelledAs cs)
      (hps : SpelledPieces ps cs') : SpelledPieces (p :: ps) (cs ++ cs')

/-- The ways to spell a quoted text. -/
structure Quoted.SpelledAs (q : Quoted) (cs : List Char) : Prop where
  fault : q.fault = none
  spelled : ∃ inner, SpelledPieces q.pieces inner ∧ cs = '"' :: inner ++ ['"']

section Quoted

variable {q : Quoted} {p : Piece} {ps : List Piece} {cs rest : List Char}

/-- A piece that is spelled is read. -/
theorem readQuoted_piece (h : p.SpelledAs cs) (rest : List Char) :
    readQuoted (cs ++ rest) = (⟨p :: (readQuoted rest).1.pieces, (readQuoted rest).1.fault⟩,
      (readQuoted rest).2) := by
  cases h with
  | plain hcontrol hquote hbackslash =>
    rw [List.singleton_append, readQuoted.eq_def]
    split <;> simp_all
  | letter h =>
    unfold escaped? at h
    split at h <;> cases h <;> rfl
  | digits h =>
    simp only [List.cons_append, List.nil_append]
    rw [readQuoted, h]

/-- What is spelled between two quotes is read, and so is the second of them. -/
theorem readQuoted_of_spelled (h : SpelledPieces ps cs) (rest : List Char) :
    readQuoted (cs ++ '"' :: rest) = (⟨ps, none⟩, some rest) := by
  induction h with
  | nil => rfl
  | cons hp _ ih => rw [List.append_assoc, readQuoted_piece hp, ih]

/-- One more piece in front of a text that is read without a fault. -/
theorem exists_spelled_piece_append {tail : List Char} (hp : p.SpelledAs cs)
    (h : (readQuoted (cs ++ tail)).1.fault = none)
    (ih : (readQuoted tail).1.fault = none → ∃ inner rest,
      SpelledPieces (readQuoted tail).1.pieces inner ∧ (readQuoted tail).2 = some rest ∧
        tail = inner ++ '"' :: rest) :
    ∃ inner rest, SpelledPieces (readQuoted (cs ++ tail)).1.pieces inner ∧
      (readQuoted (cs ++ tail)).2 = some rest ∧ cs ++ tail = inner ++ '"' :: rest := by
  rw [readQuoted_piece hp] at h ⊢
  obtain ⟨inner, rest, hinner, hrest, htail⟩ := ih h
  exact ⟨cs ++ inner, rest, .cons hp hinner, hrest, by rw [List.append_assoc, ← htail]⟩

/-- What is read without a fault is spelled so, and a quote stands behind it. -/
theorem exists_spelled_of_readQuoted (h : (readQuoted cs).1.fault = none) :
    ∃ inner rest, SpelledPieces (readQuoted cs).1.pieces inner ∧
      (readQuoted cs).2 = some rest ∧ cs = inner ++ '"' :: rest := by
  induction cs using readQuoted.induct with
  | case2 rest => exact ⟨[], rest, .nil, rfl, rfl⟩
  | case3 a b c d tail code hcode _ _ _ ih =>
    exact exists_spelled_piece_append (.digits hcode) h ih
  | case7 e tail _ _ c hc _ _ _ ih => exact exists_spelled_piece_append (.letter hc) h ih
  | case10 c tail hquote _ _ hnil hcons hcontrol _ _ _ ih =>
    have hbackslash : c ≠ '\\' := by
      rintro rfl
      cases tail with
      | nil => exact hnil rfl rfl
      | cons e tail => exact hcons e tail rfl rfl
    exact exists_spelled_piece_append (.plain (by omega) hquote hbackslash) h ih
  -- all other texts have a fault
  | case1 | case4 | case5 | case6 | case8 | case9 => simp_all [readQuoted]

end Quoted

/-! ### Words -/

theorem readWord_eq_ok_iff {word cs rest : List Char} :
    readWord word cs = .ok rest ↔ cs = word ++ rest := by
  induction word generalizing cs with
  | nil => simp [readWord]
  | cons w word ih =>
    cases cs with
    | nil => simp [readWord]
    | cons c cs =>
      rw [readWord, List.cons_append, List.cons.injEq, ← ih]
      split_ifs with h
      · simp [h]
      · simp [h]

end ContentBlocking.Json
