import ContentBlocking.Json.Writer
import ContentBlocking.Proofs.Json.Agreement
import Mathlib.Tactic.IntervalCases

/-!
# The syntax tree of a written value

`Node.ofValue` is the tree that a value has when it is written.  What `Value.compact` writes spells
this tree (`Node.spelledAs_chars`), so reading the compact text of any value gives exactly this tree
and leaves nothing behind (`Document.read_compact`).  The numerals of all numbers are regular
(`Number.numeral_regular`), so nothing has to be known about doubles here.
-/

namespace ContentBlocking.Json

open Text (joinWith)

/-! ### The numerals of numbers -/

theorem isDigit_of_mem_digitsOfNat {n : Nat} {c : Char} (h : c ∈ Numeral.digitsOfNat n) :
    c.isDigit = true :=
  Nat.isDigit_of_mem_toDigits (by decide) (by decide) h

theorem digitsOfNat_ne_nil (n : Nat) : Numeral.digitsOfNat n ≠ [] := Nat.toDigits_ne_nil

/-- The digits of a number do not start with a zero, unless the number is zero. -/
theorem head?_digitsOfNat {n : Nat} (h : n ≠ 0) : (Numeral.digitsOfNat n).head? ≠ some '0' := by
  induction n using Nat.strong_induction_on with
  | _ n ih =>
    by_cases hn : n < 10
    · rw [Numeral.digitsOfNat, Nat.toDigits_of_lt_base hn]
      interval_cases n <;> simp_all
    · have hdiv : n / 10 ≠ 0 := by omega
      have hrest := ih (n / 10) (by omega) hdiv
      have hne := digitsOfNat_ne_nil (n / 10)
      rw [Numeral.digitsOfNat, Nat.toDigits_of_base_le (by decide) (by omega)]
      rw [Numeral.digitsOfNat] at hrest hne
      obtain ⟨d, ds, hd⟩ := List.exists_cons_of_ne_nil hne
      rw [hd] at hrest
      rwa [hd, List.cons_append]

theorem digitsOfNat_zero : Numeral.digitsOfNat 0 = ['0'] := Nat.toDigits_zero 10

theorem ofInt_regular (i : Int) : (Numeral.ofInt i).Regular where
  whole_ne_nil := digitsOfNat_ne_nil _
  whole_digits := fun _ hc => isDigit_of_mem_digitsOfNat hc
  whole_zero := by
    intro d ds h
    have hw : Numeral.digitsOfNat i.natAbs = '0' :: d :: ds := h
    by_cases hi : i.natAbs = 0
    · rw [hi, digitsOfNat_zero] at hw
      simp at hw
    · exact head?_digitsOfNat hi (by rw [hw]; rfl)
  fraction_digits := by simp [Numeral.ofInt]
  exponent_digits := by simp [Numeral.ofInt]

/-- Digits without the zeros at their end. -/
def significantDigits (ds : List Char) : List Char := (ds.reverse.dropWhile (· == '0')).reverse

theorem prefix_of_significantDigits (ds : List Char) : significantDigits ds <+: ds := by
  have h := List.dropWhile_suffix (l := ds.reverse) (· == '0')
  simpa [significantDigits] using List.reverse_prefix.2 h

theorem significantDigits_ne_nil {n : Nat} (h : n ≠ 0) :
    significantDigits (Numeral.digitsOfNat n) ≠ [] := by
  obtain ⟨d, ds, hd⟩ := List.exists_cons_of_ne_nil (digitsOfNat_ne_nil n)
  have hhead := head?_digitsOfNat h
  rw [hd] at hhead ⊢
  intro hnil
  simp only [significantDigits, List.reverse_eq_nil_iff, List.dropWhile_eq_nil_iff,
    List.mem_reverse, beq_iff_eq] at hnil
  exact hhead (by simp [hnil d (by simp)])

theorem isDigit_of_mem_significantDigits {n : Nat} {c : Char}
    (h : c ∈ significantDigits (Numeral.digitsOfNat n)) : c.isDigit = true :=
  isDigit_of_mem_digitsOfNat ((prefix_of_significantDigits _).subset h)

/-- The digits of a number other than zero do not start with a zero, with or without the zeros at
their end. -/
theorem head?_significantDigits {n : Nat} (h : n ≠ 0) :
    (significantDigits (Numeral.digitsOfNat n)).head? ≠ some '0' := by
  obtain ⟨d, ds, hd⟩ := List.exists_cons_of_ne_nil (significantDigits_ne_nil h)
  have hpre := prefix_of_significantDigits (Numeral.digitsOfNat n)
  have hhead := head?_digitsOfNat h
  rw [hd] at hpre ⊢
  obtain ⟨rest, hrest⟩ := hpre
  rwa [← hrest] at hhead

theorem isDigit_of_mem_replicate {n : Nat} {c : Char} (h : c ∈ List.replicate n '0') :
    c.isDigit = true := by
  rw [List.eq_of_mem_replicate h]
  decide

/-- Digits cut at the point, with zeros for the places that they lack. -/
theorem regular_of_places {negative : Bool} {s fraction : List Char} {places zeros : Nat}
    (hs : ∀ c ∈ s, c.isDigit = true) (hne : s ≠ []) (hhead : s.head? ≠ some '0')
    (hplaces : 0 < places) (hfraction : ∀ c ∈ fraction, c.isDigit = true) :
    (Numeral.mk negative (s.take places ++ List.replicate zeros '0') fraction none).Regular := by
  obtain ⟨d, ds, rfl⟩ := List.exists_cons_of_ne_nil hne
  obtain ⟨k, rfl⟩ := Nat.exists_eq_succ_of_ne_zero hplaces.ne'
  refine ⟨by simp, fun a ha => ?_, fun a as h => ?_, hfraction, by simp⟩
  · rcases List.mem_append.1 ha with ha | ha
    · exact hs a (List.mem_of_mem_take ha)
    · exact isDigit_of_mem_replicate ha
  · simp only [Nat.succ_eq_add_one, List.take_succ_cons, List.cons_append, List.cons.injEq] at h
    exact hhead (by rw [h.1]; rfl)

theorem ofReal_regular (negative : Bool) (x : Binary64) : (Numeral.ofReal negative x).Regular := by
  rw [Numeral.ofReal]
  obtain ⟨c, e⟩ := x.shortest
  have hfold : ((Numeral.digitsOfNat c).reverse.dropWhile (· == '0')).reverse =
    significantDigits (Numeral.digitsOfNat c) := rfl
  simp only [hfold]
  split_ifs with hc hpoint hle hfraction
  · exact ⟨by simp, by simp, by simp, by simp, by simp⟩
  all_goals
    have hdigits := fun d => isDigit_of_mem_significantDigits (n := c) (c := d)
    have hhead := head?_significantDigits hc
    have hne := significantDigits_ne_nil hc
    generalize significantDigits (Numeral.digitsOfNat c) = s at *
  · refine ⟨by simp, by simp, by simp, fun a ha => ?_, by simp⟩
    rcases List.mem_append.1 ha with ha | ha
    · exact isDigit_of_mem_replicate ha
    · exact hdigits a ha
  · exact regular_of_places hdigits hne hhead (by omega) (by simp)
  · exact regular_of_places hdigits hne hhead (by omega) fun a ha =>
      hdigits a (List.mem_of_mem_drop ha)
  · obtain ⟨d, ds, rfl⟩ := List.exists_cons_of_ne_nil hne
    refine ⟨by simp, fun a ha => hdigits a (List.mem_of_mem_take ha), by simp,
      fun a ha => hdigits a (List.mem_of_mem_drop ha), fun s ds hs => ?_⟩
    obtain ⟨-, rfl⟩ := Prod.mk.inj (Option.some.inj hs)
    exact ⟨digitsOfNat_ne_nil _, fun a => isDigit_of_mem_digitsOfNat⟩

theorem Number.numeral_regular (n : Number) : n.numeral.Regular := by
  cases n with
  | integer i => exact ofInt_regular i
  | real negative x => exact ofReal_regular negative x

theorem Numeral.spelledAs_text {n : Numeral} (h : n.Regular) : n.SpelledAs n.text := by
  refine ⟨h, ?_⟩
  cases hexponent : n.exponent with
  | none => exact ⟨[], .absent, by simp [Numeral.text, signText, fractionText, hexponent]⟩
  | some e =>
    obtain ⟨negative, digits⟩ := e
    have hsign : SpelledSign negative [if negative then '-' else '+'] := by
      cases negative with
      | true => exact .minus
      | false => exact .plus
    exact ⟨_, .present (.inl rfl) hsign,
      by simp [Numeral.text, signText, fractionText, hexponent]⟩

/-! ### Quoted texts -/

/-- The piece that a character is written as. -/
def Piece.ofChar (c : Char) : Piece :=
  if c.toNat < 0x20 ∧ c ∉ ['\x08', '\x0c', '\n', '\r', '\t'] then .unit c.toNat else .char c

/-- The tree of a text in quotes. -/
def Quoted.ofString (s : String) : Quoted := ⟨s.toList.map Piece.ofChar, none⟩

theorem hexDigit?_hexChar {n : Nat} (h : n < 16) : hexDigit? (hexChar n) = some n := by
  interval_cases n <;> decide

theorem hexUnit?_hexChar {n : Nat} (h : n < 0x20) :
    hexUnit? '0' '0' (hexChar (n / 16)) (hexChar (n % 16)) = some n := by
  have hzero : hexDigit? '0' = some 0 := by decide
  simp only [hexUnit?, hzero, hexDigit?_hexChar (show n / 16 < 16 by omega),
    hexDigit?_hexChar (show n % 16 < 16 by omega), Option.pure_def, Option.bind_eq_bind,
    Option.bind_some, Option.some.injEq]
  omega

theorem Piece.spelledAs_escape (c : Char) : (Piece.ofChar c).SpelledAs (escape c) := by
  rw [escape.eq_def]
  split
  -- the seven characters with an escape of one letter
  iterate 7 · exact .letter rfl
  next hquote hbackslash h1 h2 h3 h4 h5 =>
  split
  · next hc =>
    have hpiece : Piece.ofChar c = .unit c.toNat := by
      rw [Piece.ofChar, if_pos]
      simp_all
    rw [hpiece]
    exact .digits (hexUnit?_hexChar hc)
  · next hc =>
    have hpiece : Piece.ofChar c = .char c := by simp [Piece.ofChar, hc]
    rw [hpiece]
    exact .plain (by omega) hquote hbackslash

theorem spelledPieces_flatMap_escape (cs : List Char) :
    SpelledPieces (cs.map Piece.ofChar) (cs.flatMap escape) := by
  induction cs with
  | nil => exact .nil
  | cons c cs ih => exact .cons (Piece.spelledAs_escape c) ih

theorem Quoted.spelledAs_quote (s : String) : (Quoted.ofString s).SpelledAs (quote s) :=
  ⟨rfl, _, spelledPieces_flatMap_escape s.toList, rfl⟩

/-! ### Values -/

mutual

/-- The syntax tree of a written value. -/
def Node.ofValue : Value → Node
  | .null => .null
  | .bool b => .bool b
  | .number n => .number n.numeral
  | .string s => .string (.ofString s)
  | .array items => .array (Node.ofItems items) .done
  | .object members => .object (Node.ofMembers members) .done

/-- The trees of written items. -/
def Node.ofItems : List Value → List Node
  | [] => []
  | item :: items => Node.ofValue item :: Node.ofItems items

/-- The trees of written members. -/
def Node.ofMembers : List (String × Value) → List (Quoted × Node)
  | [] => []
  | (name, value) :: members => (.ofString name, Node.ofValue value) :: Node.ofMembers members

end

theorem Node.ofItems_eq_map (items : List Value) : Node.ofItems items = items.map Node.ofValue := by
  induction items with
  | nil => rfl
  | cons item items ih => rw [Node.ofItems, ih, List.map_cons]

theorem Node.ofMembers_eq_map (members : List (String × Value)) :
    Node.ofMembers members = members.map fun m => (.ofString m.1, Node.ofValue m.2) := by
  induction members with
  | nil => rfl
  | cons m members ih => rw [Node.ofMembers, ih, List.map_cons]

section Spelling

variable {spell : Value → List Char} {before after : List Char}

/-- A written array, whose items may be spelled in any way. -/
theorem Node.spelledAs_ofItems {items : List Value} (hne : items ≠ [])
    (h : ∀ v ∈ items, (Node.ofValue v).SpelledAs (spell v)) (hafter : IsSpacing after) :
    (Node.ofValue (.array items)).SpelledAs
      ('[' :: (joinWith ',' (items.map spell) ++ (after ++ [']']))) := by
  have hitems : ∀ i ∈ items.map fun v => (Node.ofValue v, spell v), i.1.SpelledAs i.2 :=
    List.forall_mem_map.2 h
  have harray := Node.SpelledAs.array_spacing (by simpa using hne) hitems hafter
  rw [List.map_map, List.map_map] at harray
  rw [Node.ofValue, Node.ofItems_eq_map]
  exact harray

/-- A member as it is written, with white space in front and its value spelled in some way. -/
def SpelledMember.ofMember (before : List Char) (spell : Value → List Char) (m : String × Value) :
    SpelledMember :=
  ⟨.ofString m.1, before ++ quote m.1, Node.ofValue m.2, spell m.2⟩

/-- A written object, whose values may be spelled in any way. -/
theorem Node.spelledAs_ofMembers {members : List (String × Value)} (hne : members ≠ [])
    (hbefore : IsSpacing before) (h : ∀ m ∈ members, (Node.ofValue m.2).SpelledAs (spell m.2))
    (hafter : IsSpacing after) :
    (Node.ofValue (.object members)).SpelledAs ('\x7b' ::
      (joinWith ',' ((members.map (.ofMember before spell)).map SpelledMember.chars) ++
        (after ++ ['\x7d']))) := by
  have hname : ∀ m ∈ members, (Node.string (.ofString m.1)).SpelledAs (before ++ quote m.1) := by
    intro m _
    have hspaced := (Node.SpelledAs.string (Quoted.spelledAs_quote m.1)).spaced hbefore .nil
    rwa [List.append_nil] at hspaced
  have hvalue : ∀ m ∈ members.map (SpelledMember.ofMember before spell),
      m.value.SpelledAs m.valueChars := List.forall_mem_map.2 h
  have hobject := Node.SpelledAs.object_spacing (by simpa using hne) (List.forall_mem_map.2 hname)
    hvalue hafter
  rw [List.map_map] at hobject
  rw [Node.ofValue, Node.ofMembers_eq_map]
  exact hobject

end Spelling

theorem itemsChars_eq (items : List Value) :
    Value.itemsChars items = joinWith ',' (items.map Value.chars) := by
  induction items with
  | nil => rfl
  | cons item items ih =>
    cases items with
    | nil => rfl
    | cons next items => rw [Value.itemsChars, ih]; rfl

theorem membersChars_eq (members : List (String × Value)) : Value.membersChars members =
    joinWith ',' ((members.map (.ofMember [] Value.chars)).map SpelledMember.chars) := by
  induction members with
  | nil => rfl
  | cons m members ih =>
    cases members with
    | nil => rfl
    | cons next members => rw [Value.membersChars, ih]; rfl

mutual

/-- The compact text of a value spells its tree. -/
theorem Node.spelledAs_chars (v : Value) : (Node.ofValue v).SpelledAs v.chars := by
  match v with
  | .null => exact .wordNull
  | .bool true => exact .wordTrue
  | .bool false => exact .wordFalse
  | .number n => exact .number (Numeral.spelledAs_text n.numeral_regular)
  | .string s => exact .string (Quoted.spelledAs_quote s)
  | .array [] => exact .emptyArray .nil
  | .array (item :: items) =>
    rw [Value.chars, itemsChars_eq]
    exact Node.spelledAs_ofItems (by simp) (Node.spelledAs_chars_of_items (item :: items)) .nil
  | .object [] => exact .emptyObject .nil
  | .object (member :: members) =>
    rw [Value.chars, membersChars_eq]
    exact Node.spelledAs_ofMembers (by simp) .nil
      (Node.spelledAs_chars_of_members (member :: members)) .nil

theorem Node.spelledAs_chars_of_items (items : List Value) :
    ∀ v ∈ items, (Node.ofValue v).SpelledAs v.chars := by
  match items with
  | [] => simp
  | item :: items =>
    exact List.forall_mem_cons.2 ⟨Node.spelledAs_chars item, Node.spelledAs_chars_of_items items⟩

theorem Node.spelledAs_chars_of_members (members : List (String × Value)) :
    ∀ m ∈ members, (Node.ofValue m.2).SpelledAs m.2.chars := by
  match members with
  | [] => simp
  | (name, value) :: members =>
    exact List.forall_mem_cons.2 ⟨Node.spelledAs_chars value,
      Node.spelledAs_chars_of_members members⟩

end

/-- Reading the compact text of a value gives its tree and leaves nothing behind. -/
theorem Document.read_compact (v : Value) : Document.read v.compact = ⟨Node.ofValue v, false⟩ := by
  refine Document.read_eq_of_spelledAs ?_
  rw [Value.compact, String.toList_ofList]
  exact Node.spelledAs_chars v

end ContentBlocking.Json
