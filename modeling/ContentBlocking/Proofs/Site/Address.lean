import ContentBlocking.Proofs.Site.Builtin
import ContentBlocking.Proofs.Url.NormalHost

/-!
# Sites of addresses

The site of a host is its last labels, with a public suffix list as without one, and only their
number depends on the list (`Site.ofNormal_eq`).  A host that is an address has no labels, but the
dots of a dotted quad separate some: an address in brackets that ends in no quad is one label, and
any other is four.  So the site of an address is the address if it is one label or all four are
kept, and the last octets of the quad otherwise (`Site.Address.ofHost_eq_text_iff`,
`Site.Address.ofNormal_of_some`).  Two addresses fall into one site if these are the same octets
(`Site.Address.ofHost_eq_iff`).
-/

namespace ContentBlocking

open Text (splitOn joinWith)

/-! ### The labels that a site keeps -/

namespace SuffixList

variable {list : SuffixList}

theorem descend_pos {path : List String} {seen best : ℕ} {labels : List String} (hseen : 0 < seen)
    (hbest : 0 < best) : 0 < list.descend path seen best labels := by
  induction labels generalizing path seen best with
  | nil => exact hbest
  | cons label labels ih =>
    rw [descend]
    split
    · exact hbest
    · exact hseen
    · exact ih (Nat.succ_pos seen) (Nat.succ_pos seen)
    · exact ih (Nat.succ_pos seen) hbest

/-- The last label of a name is always part of its suffix. -/
theorem suffixLength_pos {labels : List String} (h : labels ≠ []) :
    0 < list.suffixLength labels := by
  cases labels with
  | nil => exact absurd rfl h
  | cons label labels =>
    rw [suffixLength]
    split_ifs
    · exact descend_pos Nat.one_pos Nat.one_pos
    · exact Nat.one_pos

theorem registrable_eq (host : List Char) :
    list.registrable host = joinWith '.' ((splitOn '.' host).rtake
      (list.suffixLength ((splitOn '.' host).reverse.map String.ofList) + 1)) := by
  rw [registrable]
  generalize list.suffixLength ((splitOn '.' host).reverse.map String.ofList) = n
  -- the suffix with the label before it, in the order of the host
  have hrtake : (splitOn '.' host).rtake (n + 1) =
      ((splitOn '.' host).reverse.take (n + 1)).reverse := by
    rw [List.rtake_eq_reverse_take_reverse]
  have hhost := Text.joinWith_splitOn '.' host
  have hall : (splitOn '.' host).reverse.drop (n + 1) = [] →
      joinWith '.' ((splitOn '.' host).rtake (n + 1)) = host := by
    intro hnil
    rw [hrtake, List.take_of_length_le (List.drop_eq_nil_iff.1 hnil), List.reverse_reverse, hhost]
  split
  · next hnil => exact (hall (by rw [← List.drop_drop, hnil, List.drop_nil])).symm
  · next hlast => exact (hall (by rw [← List.drop_drop, hlast]; rfl)).symm
  · next label rest _ hdrop =>
    rw [hrtake, List.take_add, hdrop, List.take_succ_cons, List.take_zero, List.reverse_append]
    rfl

end SuffixList

namespace Site

/-- The number of labels that a site keeps of a host, which may have fewer. -/
def kept : Option SuffixList → List (List Char) → ℕ
  | none, labels => if IsCommon (labels.rtake 2) then 3 else 2
  | some list, labels => list.suffixLength (labels.reverse.map String.ofList) + 1

/-- **The site of a host is its last labels**, with a list and without one. -/
theorem ofNormal_eq (suffixes : Option SuffixList) (host : List Char) :
    ofNormal suffixes host =
      joinWith '.' ((splitOn '.' host).rtake (kept suffixes (splitOn '.' host))) := by
  cases suffixes with
  | some list => exact SuffixList.registrable_eq host
  | none =>
    rw [ofNormal, builtin_eq, siteLabels, kept]
    split_ifs with hshort
    · rw [rtake_of_length_le (by omega)]
    · rw [rtake_of_length_le hshort]
    · rfl
    · rfl

theorem two_le_kept (suffixes : Option SuffixList) {labels : List (List Char)} (h : labels ≠ []) :
    2 ≤ kept suffixes labels := by
  cases suffixes with
  | none =>
    rw [kept]
    split_ifs <;> omega
  | some list => exact Nat.succ_le_succ (SuffixList.suffixLength_pos (by simpa using h))

/-! ### Addresses -/

/-- An octet of a dotted quad, in decimal digits. -/
@[ext] structure Octet where
  digits : List Char
  ne_nil : digits ≠ []
  length_le : digits.length ≤ 3
  isDigit : ∀ c ∈ digits, c.isDigit = true
  lt : Nat.ofDigitChars 10 digits 0 < 256

/-- The octet of a number. -/
def Octet.ofByte (n : Fin 256) : Octet where
  digits := Nat.toDigits 10 n
  ne_nil := Nat.toDigits_ne_nil
  length_le :=
    (Nat.length_toDigits_le_iff (by decide) (by decide)).2 (n.isLt.trans (by decide))
  isDigit := fun _ => Nat.isDigit_of_mem_toDigits (by decide) (by decide)
  lt := Nat.ofDigitChars_ten_toDigits.trans_lt n.isLt

/-- Four octets. -/
structure Quad where
  octets : List Octet
  length_octets : octets.length = 4

/-- Sixteen bits of an address in brackets, in small hexadecimal digits. -/
structure Group where
  digits : List Char
  ne_nil : digits ≠ []
  length_le : digits.length ≤ 4
  isHex : ∀ c ∈ digits, c.isDigit = true ∨ c ∈ ['a', 'b', 'c', 'd', 'e', 'f']

/-- What stands in the brackets: groups, of which a quad may stand for the last two. -/
structure Groups where
  front : List Group
  /-- The groups behind a double colon, if there is one; it stands for a group of zeros at least. -/
  back : Option (List Group)
  quad : Option Quad
  length_groups : match back with
    | none => front.length + 2 * quad.toList.length = 8
    | some back => front.length + back.length + 2 * quad.toList.length ≤ 7

/-- A host that is an address. -/
inductive Address
  | v4 (quad : Quad)
  | v6 (groups : Groups)

namespace Quad

def chars (q : Quad) : List Char := joinWith '.' (q.octets.map Octet.digits)

/-- The quad of four numbers. -/
def ofBytes (i j k l : Fin 256) : Quad := ⟨[i, j, k, l].map Octet.ofByte, rfl⟩

end Quad

namespace Groups

/-- The groups up to a double colon, with it. -/
def opening (g : Groups) : List Char :=
  match g.back with
  | none => []
  | some _ => joinWith ':' (g.front.map Group.digits) ++ [':', ':']

/-- The groups behind the double colon, or all groups if there is none. -/
def ending (g : Groups) : List Group := g.back.getD g.front

def chars (g : Groups) : List Char :=
  g.opening ++ joinWith ':' (g.ending.map Group.digits ++ g.quad.toList.map Quad.chars)

end Groups

namespace Address

/-- The address as a host. -/
def chars : Address → List Char
  | v4 quad => quad.chars
  | v6 groups => '[' :: groups.chars ++ [']']

def text (a : Address) : String := String.ofList a.chars

/-- The quad stands for the last two groups. -/
example : (v6 ⟨[], some [⟨['f', 'f', 'f', 'f'], by simp, by simp, by simp⟩],
    some (.ofBytes 10 0 0 1), by decide⟩).text = "[::ffff:10.0.0.1]" := by
  decide

/-- The dotted quad at the end of an address. -/
def quad? : Address → Option Quad
  | v4 quad => some quad
  | v6 groups => groups.quad

/-- What stands behind the quad. -/
def closing : Address → List Char
  | v4 _ => []
  | v6 _ => [']']

/-- What is taken for the labels of an address. -/
def labels (a : Address) : List (List Char) := splitOn '.' a.chars

/-- The site keeps all of the address: there is no dot in it, or all four labels are kept. -/
def IsWhole (suffixes : Option SuffixList) (a : Address) : Prop :=
  a.quad? = none ∨ 4 ≤ kept suffixes a.labels

instance (suffixes : Option SuffixList) (a : Address) : Decidable (a.IsWhole suffixes) :=
  inferInstanceAs (Decidable (_ ∨ _))

/-- Two addresses have nothing but the last octets of their quads in their sites, as many of the one
as of the other, and they are the same. -/
def Merges (suffixes : Option SuffixList) (a a' : Address) : Prop :=
  a.closing = a'.closing ∧ ∃ q ∈ a.quad?, ∃ q' ∈ a'.quad?, ∃ n < 4,
    kept suffixes a.labels = n ∧ kept suffixes a'.labels = n ∧
      q.octets.rtake n = q'.octets.rtake n

end Address

/-! ### Characters of an address -/

section Characters

/-- A character of a group, or a colon. -/
def IsGroupChar (c : Char) : Prop :=
  c.isDigit = true ∨ c ∈ ['a', 'b', 'c', 'd', 'e', 'f', ':']

instance : DecidablePred IsGroupChar := fun _ => inferInstanceAs (Decidable (_ ∨ _))

variable {c : Char}

theorem isUpper_of_isDigit (h : c.isDigit = true) : c.isUpper = false := by
  rw [Char.isDigit, Bool.and_eq_true, decide_eq_true_eq, decide_eq_true_eq] at h
  rw [Char.isUpper, decide_eq_false_iff_not]
  rintro ⟨hupper, -⟩
  exact absurd (UInt32.le_trans hupper h.2) (by decide)

theorem IsGroupChar.isUpper (h : IsGroupChar c) : c.isUpper = false := by
  rcases h with hdigit | hletter
  · exact isUpper_of_isDigit hdigit
  · simp only [List.mem_cons, List.not_mem_nil, or_false] at hletter
    rcases hletter with rfl | rfl | rfl | rfl | rfl | rfl | rfl <;> rfl

/-- No character of a group is a dot. -/
theorem IsGroupChar.ne_dot (h : IsGroupChar c) : c ≠ '.' := by
  rintro rfl
  exact absurd h (by decide)

theorem Octet.isDigit_or_dot (octets : List Octet) :
    ∀ c ∈ joinWith '.' (octets.map Octet.digits), c.isDigit = true ∨ c = '.' := by
  refine Text.forall_mem_joinWith (.inr rfl) fun digits hdigits c hc => ?_
  obtain ⟨o, -, rfl⟩ := List.mem_map.1 hdigits
  exact .inl (o.isDigit c hc)

theorem Quad.isDigit_or_dot (q : Quad) : ∀ c ∈ q.chars, c.isDigit = true ∨ c = '.' :=
  Octet.isDigit_or_dot q.octets

theorem Quad.length_chars_le (q : Quad) : q.chars.length ≤ 16 := by
  have hlength := Text.length_joinWith_le '.'
    (List.forall_mem_map.2 fun o (_ : o ∈ q.octets) => o.length_le)
  rwa [List.length_map, q.length_octets] at hlength

theorem Octet.dot_not_mem (octets : List Octet) : ∀ digits ∈ octets.map Octet.digits,
    '.' ∉ digits := by
  intro digits hdigits hdot
  obtain ⟨o, -, rfl⟩ := List.mem_map.1 hdigits
  exact absurd (o.isDigit _ hdot) (by decide)

theorem Group.isGroupChar (groups : List Group) : ∀ digits ∈ groups.map Group.digits,
    ∀ c ∈ digits, IsGroupChar c := by
  intro digits hdigits c hc
  obtain ⟨g, -, rfl⟩ := List.mem_map.1 hdigits
  refine (g.isHex c hc).imp_right fun h => ?_
  exact List.mem_append_left [':'] h

theorem Groups.isGroupChar_opening (g : Groups) : ∀ c ∈ g.opening, IsGroupChar c := by
  rw [opening]
  split
  · simp
  · rw [List.forall_mem_append]
    refine ⟨Text.forall_mem_joinWith (.inr (by decide)) (Group.isGroupChar _), ?_⟩
    simp [IsGroupChar]

theorem Groups.length_chars_le (g : Groups) : g.chars.length ≤ 136 := by
  have hfront := Text.length_joinWith_le ':'
    (List.forall_mem_map.2 fun o (_ : o ∈ g.front) => o.length_le)
  have hending : ∀ digits ∈ g.ending.map Group.digits ++ g.quad.toList.map Quad.chars,
      digits.length ≤ 16 := by
    rw [List.forall_mem_append, List.forall_mem_map, List.forall_mem_map]
    exact ⟨fun o _ => o.length_le.trans (by decide), fun q _ => q.length_chars_le⟩
  have hrest := Text.length_joinWith_le ':' hending
  have hgroups := g.length_groups
  rw [chars, opening, List.length_append]
  rw [List.length_append, List.length_map, List.length_map] at hrest
  rw [List.length_map] at hfront
  rw [ending] at hrest ⊢
  cases hback : g.back with
  | none =>
    simp only [hback, Option.getD_none] at hgroups hrest ⊢
    simp only [List.length_nil]
    omega
  | some back =>
    simp only [hback, Option.getD_some] at hgroups hrest ⊢
    simp only [List.length_append, List.length_cons, List.length_nil] at hrest ⊢
    omega

/-- A quad begins with a digit. -/
theorem Quad.exists_cons (q : Quad) : ∃ c rest, q.chars = c :: rest ∧ c.isDigit = true := by
  obtain ⟨octets, hlength⟩ := q
  cases octets with
  | nil => cases hlength
  | cons o octets =>
    obtain ⟨tail, htail⟩ :=
      Text.exists_joinWith_cons '.' o.digits (octets.map Octet.digits)
    obtain ⟨c, digits, hdigits⟩ := List.exists_cons_of_ne_nil o.ne_nil
    refine ⟨c, digits ++ tail, ?_, o.isDigit c (by simp [hdigits])⟩
    rw [chars, List.map_cons, htail, hdigits, List.cons_append]

/-- A quad ends in a digit. -/
theorem Quad.exists_concat (q : Quad) : ∃ front c, q.chars = front ++ [c] ∧ c.isDigit = true := by
  obtain ⟨octets, hlength⟩ := q
  cases octets using List.reverseRecOn with
  | nil => cases hlength
  | append_singleton octets o =>
    have hlast := List.dropLast_append_getLast o.ne_nil
    refine ⟨joinWith '.' (octets.map Octet.digits ++ [o.digits.dropLast]),
      o.digits.getLast o.ne_nil, ?_, o.isDigit _ (List.getLast_mem _)⟩
    rw [chars, ← Text.joinWith_concat_append, hlast, List.map_append]
    rfl

/-- Groups come before the quad. -/
theorem Groups.exists_lead (g : Groups) : ∃ lead, (∀ c ∈ lead, IsGroupChar c) ∧
    g.chars = lead ++ g.quad.elim [] Quad.chars := by
  have hcolon : IsGroupChar ':' := .inr (by decide)
  cases hquad : g.quad with
  | none =>
    refine ⟨g.chars, ?_, by simp⟩
    rw [chars, hquad, Option.toList_none, List.map_nil, List.append_nil, List.forall_mem_append]
    exact ⟨g.isGroupChar_opening, Text.forall_mem_joinWith hcolon (Group.isGroupChar _)⟩
  | some q =>
    refine ⟨g.opening ++ joinWith ':' (g.ending.map Group.digits ++ [[]]), ?_, ?_⟩
    · rw [List.forall_mem_append]
      refine ⟨g.isGroupChar_opening, Text.forall_mem_joinWith hcolon ?_⟩
      rw [List.forall_mem_append]
      exact ⟨Group.isGroupChar _, by simp⟩
    · have hjoin : joinWith ':' (g.ending.map Group.digits ++ [[] ++ q.chars]) =
          joinWith ':' (g.ending.map Group.digits ++ [[]]) ++ q.chars :=
        Text.joinWith_concat_append _ [] q.chars
      rw [chars, hquad, List.append_assoc, Option.elim_some, ← hjoin]
      rfl

theorem Groups.isGroupChar_or_dot (g : Groups) : ∀ c ∈ g.chars, IsGroupChar c ∨ c = '.' := by
  obtain ⟨lead, hlead, hchars⟩ := g.exists_lead
  rw [hchars, List.forall_mem_append]
  refine ⟨fun c hc => .inl (hlead c hc), fun c hc => ?_⟩
  cases hquad : g.quad with
  | none => simp [hquad] at hc
  | some q =>
    rw [hquad] at hc
    exact (q.isDigit_or_dot c hc).imp_left .inl

namespace Address

variable (a : Address)

/-- A quad stands behind what holds no dot. -/
theorem exists_lead : ∃ lead, '.' ∉ lead ∧
    a.chars = lead ++ (a.quad?.elim [] Quad.chars ++ a.closing) := by
  cases a with
  | v4 q => exact ⟨[], by simp, by simp [chars, quad?, closing]⟩
  | v6 g =>
    obtain ⟨lead, hlead, hchars⟩ := g.exists_lead
    refine ⟨'[' :: lead, ?_, ?_⟩
    · rw [List.mem_cons, not_or]
      exact ⟨by decide, fun hdot => (hlead _ hdot).ne_dot rfl⟩
    · rw [chars, hchars]
      simp [quad?, closing]

theorem isGroupChar_or_mem : ∀ c ∈ a.chars, IsGroupChar c ∨ c ∈ ['[', '.', ']'] := by
  cases a with
  | v4 q => exact fun c hc => (q.isDigit_or_dot c hc).imp .inl (by rintro rfl; decide)
  | v6 g =>
    rw [chars, List.cons_append, List.forall_mem_cons, List.forall_mem_append]
    refine ⟨.inr (by decide), fun c hc => ?_, by simp⟩
    exact (g.isGroupChar_or_dot c hc).imp_right (by rintro rfl; decide)

theorem length_chars_le : a.chars.length ≤ 138 := by
  cases a with
  | v4 q => exact q.length_chars_le.trans (by decide)
  | v6 g =>
    have hlength := g.length_chars_le
    rw [chars, List.length_append, List.length_cons, List.length_singleton]
    omega

theorem head?_chars : a.chars.head? ≠ some '.' := by
  cases a with
  | v4 q =>
    obtain ⟨c, rest, hchars, hdigit⟩ := q.exists_cons
    rw [chars, hchars, List.head?_cons, ne_eq, Option.some_inj]
    rintro rfl
    exact absurd hdigit (by decide)
  | v6 g => simp [chars]

/-- An address ends in a digit or in the bracket that closes it. -/
theorem getLast?_chars : ∃ c, a.chars.getLast? = some c ∧ (c.isDigit = true ∨ c = ']') := by
  cases a with
  | v4 q =>
    obtain ⟨front, c, hchars, hdigit⟩ := q.exists_concat
    exact ⟨c, by rw [chars, hchars, List.getLast?_concat], .inl hdigit⟩
  | v6 g => exact ⟨']', List.getLast?_concat, .inr rfl⟩

theorem isClosed : Url.IsClosed a.chars := by
  cases a with
  | v4 q =>
    refine .inl ⟨fun hhead => ?_, fun c hc hmem => ?_⟩
    · exact absurd (q.isDigit_or_dot _ (List.mem_of_mem_head? hhead)) (by decide)
    · have hdigit := q.isDigit_or_dot c hc
      simp only [List.mem_cons, List.not_mem_nil, or_false] at hmem
      rcases hmem with rfl | rfl | rfl | rfl <;> exact absurd hdigit (by decide)
  | v6 g =>
    refine .inr ⟨g.chars, [], rfl, fun hclose => ?_, by simp⟩
    exact absurd (g.isGroupChar_or_dot _ hclose) (by decide)

/-- **An address is a host in normal form.** -/
theorem isNormal : Url.IsNormal a.chars := by
  have hlast := a.getLast?_chars
  refine ⟨⟨?_, fun c hc => ?_, ?_, a.isClosed⟩, fun before after heq => ?_⟩
  · rintro hnil
    simp [hnil] at hlast
  · rcases a.isGroupChar_or_mem c hc with hgroup | hbracket
    · exact hgroup.isUpper
    · simp only [List.mem_cons, List.not_mem_nil, or_false] at hbracket
      rcases hbracket with rfl | rfl | rfl <;> rfl
  · intro hdot
    obtain ⟨c, hc, hdigit⟩ := hlast
    obtain rfl : '.' = c := Option.some.inj (hdot.symm.trans hc)
    exact absurd hdigit (by decide)
  · exact absurd (a.isGroupChar_or_mem '@' (by simp [heq])) (by decide)

end Address

end Characters

/-! ### Sites of addresses -/

/-- The last labels of a host stand at its end. -/
theorem joinWith_rtake_suffix (host : List Char) (n : ℕ) :
    joinWith '.' ((splitOn '.' host).rtake n) <:+ host := by
  obtain ⟨front, hfront⟩ := exists_append_rtake (splitOn '.' host) n
  have hhost := Text.joinWith_splitOn '.' host
  by_cases hnil : front = []
  · rw [hnil, List.nil_append] at hfront
    rw [← hfront, hhost]
  · by_cases hback : (splitOn '.' host).rtake n = []
    · rw [hback]
      exact List.nil_suffix
    · rw [hfront, Text.joinWith_append hnil hback] at hhost
      conv_rhs => rw [← hhost]
      exact ⟨joinWith '.' front ++ ['.'], by simp⟩

/-- The site of a host stands at its end. -/
theorem ofNormal_suffix (suffixes : Option SuffixList) (host : List Char) :
    ofNormal suffixes host <:+ host := by
  rw [ofNormal_eq]
  exact joinWith_rtake_suffix host _

namespace Address

section Sites

variable {suffixes : Option SuffixList} {a a' : Address} {q : Quad} {n : ℕ}

theorem dot_not_mem_closing (a : Address) : '.' ∉ a.closing := by
  cases a <;> simp [closing]

theorem labels_of_none (h : a.quad? = none) : a.labels = [a.chars] := by
  obtain ⟨lead, hlead, hchars⟩ := a.exists_lead
  refine Text.splitOn_of_not_mem ?_
  rw [hchars, h]
  simp [hlead, a.dot_not_mem_closing]

/-- What is joined from octets has as many labels, whatever closes it. -/
theorem length_splitOn_octets {octets : List Octet} (h : octets ≠ []) (a : Address) :
    (splitOn '.' (joinWith '.' (octets.map Octet.digits) ++ a.closing)).length =
      octets.length := by
  have hcount := Text.count_joinWith (by simpa using h) (Octet.dot_not_mem octets)
  rw [Text.length_splitOn, List.count_append, List.count_eq_zero.2 a.dot_not_mem_closing,
    Nat.add_zero, hcount, List.length_map]

theorem length_labels_of_some (h : a.quad? = some q) : a.labels.length = 4 := by
  obtain ⟨lead, hlead, hchars⟩ := a.exists_lead
  have hne : q.octets ≠ [] := by
    rintro hnil
    have := q.length_octets
    simp [hnil] at this
  have hoctets := length_splitOn_octets hne a
  rw [Text.length_splitOn, q.length_octets] at hoctets
  rw [labels, Text.length_splitOn, hchars, h, List.count_append, List.count_eq_zero.2 hlead,
    Nat.zero_add]
  exact hoctets

theorem two_le_kept (suffixes : Option SuffixList) (a : Address) : 2 ≤ kept suffixes a.labels :=
  Site.two_le_kept suffixes (Text.splitOnP_ne_nil _ a.chars)

theorem isWhole_iff : a.IsWhole suffixes ↔ a.labels.length ≤ kept suffixes a.labels := by
  have htwo := a.two_le_kept suffixes
  rw [IsWhole]
  cases h : a.quad? with
  | none =>
    rw [labels_of_none h] at htwo ⊢
    exact iff_of_true (.inl rfl) (Nat.le_of_succ_le htwo)
  | some q => simp [length_labels_of_some h]

theorem ofNormal_chars (suffixes : Option SuffixList) (a : Address) :
    ofNormal suffixes a.chars = joinWith '.' (a.labels.rtake (kept suffixes a.labels)) :=
  ofNormal_eq suffixes a.chars

theorem ofNormal_of_isWhole (h : a.IsWhole suffixes) : ofNormal suffixes a.chars = a.chars := by
  rw [ofNormal_chars, rtake_of_length_le (isWhole_iff.1 h), labels, Text.joinWith_splitOn]

/-- The labels of the site are the last ones of the address. -/
theorem length_splitOn_ofNormal (h : ¬a.IsWhole suffixes) :
    (splitOn '.' (ofNormal suffixes a.chars)).length = kept suffixes a.labels := by
  have hlength : (a.labels.rtake (kept suffixes a.labels)).length = kept suffixes a.labels :=
    length_rtake (Nat.le_of_not_le fun hle => h (isWhole_iff.2 hle))
  have htwo := a.two_le_kept suffixes
  rw [ofNormal_chars, Text.splitOn_joinWith_of_not_mem, hlength]
  · rintro hnil
    rw [hnil, List.length_nil] at hlength
    omega
  · intro label hlabel
    exact Text.not_mem_of_mem_splitOn (List.mem_of_mem_drop hlabel)

theorem exists_quad_of_not_isWhole (h : ¬a.IsWhole suffixes) :
    (∃ q, a.quad? = some q) ∧ kept suffixes a.labels < 4 := by
  rw [IsWhole, not_or, not_le] at h
  exact ⟨Option.ne_none_iff_exists'.1 h.1, h.2⟩

/-- A site is an address only if it is the site of that address, which it keeps whole. -/
theorem ofNormal_eq_chars_iff :
    ofNormal suffixes a'.chars = a.chars ↔ a'.chars = a.chars ∧ a'.IsWhole suffixes := by
  constructor
  · intro hsite
    by_cases hwhole : a'.IsWhole suffixes
    · exact ⟨(ofNormal_of_isWhole hwhole).symm.trans hsite, hwhole⟩
    · -- two or three labels are left of four, and an address has one or four
      have hlength := length_splitOn_ofNormal hwhole
      have htwo := a'.two_le_kept suffixes
      have hfour := (exists_quad_of_not_isWhole hwhole).2
      rw [hsite, ← labels] at hlength
      cases hquad : a.quad? with
      | none =>
        rw [labels_of_none hquad, List.length_singleton] at hlength
        omega
      | some q =>
        rw [length_labels_of_some hquad] at hlength
        omega
  · rintro ⟨heq, hwhole⟩
    rw [ofNormal_of_isWhole hwhole, heq]

/-- An address that is not its site keeps the last octets of its quad. -/
theorem ofNormal_of_some (h : a.quad? = some q) (hn : kept suffixes a.labels < 4) :
    ofNormal suffixes a.chars =
      joinWith '.' ((q.octets.rtake (kept suffixes a.labels)).map Octet.digits) ++ a.closing := by
  have htwo := a.two_le_kept suffixes
  rw [ofNormal_chars]
  generalize kept suffixes a.labels = n at hn htwo
  obtain ⟨lead, -, hchars⟩ := a.exists_lead
  obtain ⟨front, hfront⟩ := exists_append_rtake q.octets n
  have hback : (q.octets.rtake n).length = n := length_rtake (by rw [q.length_octets]; omega)
  have hlength := congrArg List.length hfront
  rw [q.length_octets, List.length_append, hback] at hlength
  generalize q.octets.rtake n = back at hfront hback
  have hne : front ≠ [] ∧ back ≠ [] := by
    constructor <;> rintro rfl <;> simp at hlength hback <;> omega
  have hsplit : a.chars = (lead ++ joinWith '.' (front.map Octet.digits)) ++
      '.' :: (joinWith '.' (back.map Octet.digits) ++ a.closing) := by
    rw [hchars, h, Option.elim_some, Quad.chars, hfront, List.map_append,
      Text.joinWith_append (by simpa using hne.1) (by simpa using hne.2)]
    simp
  rw [labels, hsplit, Text.splitOn_append_cons,
    rtake_append_of_length ((length_splitOn_octets hne.2 a).trans hback), Text.joinWith_splitOn]

/-- What is left of two addresses is the same if the octets are and both are in brackets or none
is. -/
theorem append_closing_inj {octets octets' : List Octet} (h : octets ≠ []) (h' : octets' ≠ [])
    (heq : joinWith '.' (octets.map Octet.digits) ++ a.closing =
      joinWith '.' (octets'.map Octet.digits) ++ a'.closing) :
    octets = octets' ∧ a.closing = a'.closing := by
  have hclose : ∀ octets : List Octet, ']' ∉ joinWith '.' (octets.map Octet.digits) :=
    fun octets hmem => absurd (Octet.isDigit_or_dot octets _ hmem) (by decide)
  have hjoin : joinWith '.' (octets.map Octet.digits) = joinWith '.' (octets'.map Octet.digits) →
      octets = octets' := by
    intro hjoin
    have hdigits := congrArg (splitOn '.') hjoin
    rw [Text.splitOn_joinWith_of_not_mem (by simpa using h) (Octet.dot_not_mem octets),
      Text.splitOn_joinWith_of_not_mem (by simpa using h') (Octet.dot_not_mem octets')] at hdigits
    exact List.map_injective_iff.2 (fun _ _ => Octet.ext) hdigits
  cases a with
  | v4 q =>
    cases a' with
    | v4 q' => exact ⟨hjoin (by simpa [closing] using heq), rfl⟩
    | v6 g' =>
      rw [closing, closing, List.append_nil] at heq
      exact absurd (by simp [heq]) (hclose octets)
  | v6 g =>
    cases a' with
    | v4 q' =>
      rw [closing, closing, List.append_nil] at heq
      exact absurd (by simp [← heq]) (hclose octets')
    | v6 g' => exact ⟨hjoin (List.append_cancel_right heq), rfl⟩

/-- **Two addresses fall into one site exactly if the same octets are left of both.** -/
theorem ofNormal_eq_iff (hne : a.chars ≠ a'.chars) :
    ofNormal suffixes a.chars = ofNormal suffixes a'.chars ↔ a.Merges suffixes a' := by
  constructor
  · intro hsite
    by_cases hwhole : a.IsWhole suffixes
    · rw [ofNormal_of_isWhole hwhole] at hsite
      exact absurd (ofNormal_eq_chars_iff.1 hsite.symm).1.symm hne
    by_cases hwhole' : a'.IsWhole suffixes
    · rw [ofNormal_of_isWhole hwhole'] at hsite
      exact absurd (ofNormal_eq_chars_iff.1 hsite).1 hne
    have hkept : kept suffixes a.labels = kept suffixes a'.labels := by
      rw [← length_splitOn_ofNormal hwhole, hsite, length_splitOn_ofNormal hwhole']
    obtain ⟨⟨q, hq⟩, hn⟩ := exists_quad_of_not_isWhole hwhole
    obtain ⟨⟨q', hq'⟩, hn'⟩ := exists_quad_of_not_isWhole hwhole'
    rw [ofNormal_of_some hq hn, ofNormal_of_some hq' hn', hkept] at hsite
    have hoctets : ∀ q : Quad, q.octets.rtake (kept suffixes a'.labels) ≠ [] := by
      intro q hnil
      have hlength := length_rtake (q.length_octets ▸ hn'.le)
      have htwo := a'.two_le_kept suffixes
      rw [hnil, List.length_nil] at hlength
      omega
    obtain ⟨hsame, hclosing⟩ := append_closing_inj (hoctets q) (hoctets q') hsite
    exact ⟨hclosing, q, hq, q', hq', _, hn', hkept, rfl, hsame⟩
  · rintro ⟨hclosing, q, hq, q', hq', n, hn, hkept, hkept', hsame⟩
    rw [ofNormal_of_some hq (hkept ▸ hn), ofNormal_of_some hq' (hkept' ▸ hn), hkept, hkept', hsame,
      hclosing]

/-- No suffix that is known without a list ends an address. -/
theorem kept_none (a : Address) : kept none a.labels = 2 := by
  refine if_neg fun hcommon => ?_
  have hend : ∀ s ∈ commonSuffixes,
      s.toList.getLast?.any (fun c => !(c.isDigit || c == ']')) = true := by
    decide
  obtain ⟨c, hc, hletter⟩ := (Option.any_eq_true _ _).1 (hend _ hcommon)
  obtain ⟨front, hfront⟩ := joinWith_rtake_suffix a.chars 2
  obtain ⟨d, hd, hdigit⟩ := a.getLast?_chars
  rw [String.toList_ofList] at hc
  rw [← hfront, List.getLast?_append, ← labels, hc, Option.some_or] at hd
  obtain rfl := Option.some.inj hd
  rcases hdigit with hdigit | hdigit <;> simp [hdigit] at hletter

/-- An address does not end in a dot and another address. -/
theorem chars_ne_append (a a' : Address) (front : List Char) : a'.chars ≠ front ++ '.' :: a.chars := by
  intro heq
  cases a with
  | v4 q =>
    -- there would be five labels
    have hlength : a'.labels.length ≤ 4 := by
      cases hquad : a'.quad? with
      | none => simp [labels_of_none hquad]
      | some q' => exact (length_labels_of_some hquad).le
    have hfour : (v4 q).labels.length = 4 := length_labels_of_some rfl
    have hfront := List.length_pos_iff.2 (Text.splitOnP_ne_nil (· == '.') front)
    rw [labels, heq, Text.splitOn_append_cons, List.length_append, ← labels, hfour,
      splitOn] at hlength
    omega
  | v6 g =>
    -- a bracket would open behind other characters
    have hbracket : '[' ∈ a'.chars.tail := by
      rw [heq, chars]
      cases front <;> simp
    cases a' with
    | v4 q' => exact absurd (q'.isDigit_or_dot _ (List.mem_of_mem_tail hbracket)) (by decide)
    | v6 g' =>
      rw [chars, List.cons_append, List.tail_cons, List.mem_append] at hbracket
      rcases hbracket with hgroup | hclose
      · exact absurd (g'.isGroupChar_or_dot _ hgroup) (by decide)
      · exact absurd hclose (by decide)

/-- A host that is an address is normalized already. -/
theorem ofHost_text (suffixes : Option SuffixList) (a : Address) :
    ofHost suffixes a.text = String.ofList (ofNormal suffixes a.chars) := by
  have hnormal : IsNormal a.text := by
    have hchars := a.isNormal.toIsHost
    rw [← String.toList_ofList (l := a.chars)] at hchars
    exact ⟨hchars.small, hchars.noDot⟩
  rw [ofHost, hnormal.normalize_eq, text, String.toList_ofList]

theorem ofHost_eq_text_iff :
    ofHost suffixes a'.text = a.text ↔ a'.text = a.text ∧ a'.IsWhole suffixes := by
  rw [ofHost_text, text, text, String.ofList_inj, String.ofList_inj, ofNormal_eq_chars_iff]

theorem ofHost_eq_iff (hne : a.text ≠ a'.text) :
    ofHost suffixes a.text = ofHost suffixes a'.text ↔ a.Merges suffixes a' := by
  rw [text, text, ne_eq, String.ofList_inj] at hne
  rw [ofHost_text, ofHost_text, String.ofList_inj, ofNormal_eq_iff hne]

end Sites

end Address

end Site

end ContentBlocking
