import ContentBlocking.Json.Reader
import ContentBlocking.Proofs.Json.Document
import ContentBlocking.Proofs.Success

/-!
# Reading rewritten values

A text that was read without a type and written again has lost its white space, its escapes, the
order of its members and all but the last of equal names.  A typed reader does not notice: it is
`Stable` if what it makes of a text it makes of the rewritten text too
(`Reader.Stable.run_compact`).  Readers of texts, truth values, options, lists and variants are
stable, and so are readers of records whose slots are `Lawful` (`Reader.stable_fields`): filling
different slots commutes, so the order of the members is of no account, and no slot is filled twice,
so no name with a slot was lost.
-/

namespace ContentBlocking.Json

/-- What a reader makes of a tree it makes of the rewritten value, too. -/
def Reader.Stable {α : Type} (read : Reader α) : Prop :=
  ∀ ⦃depth : Nat⦄ ⦃node : Node⦄ ⦃v : Value⦄ ⦃a : α⦄, Value.ofNode depth node = .ok v →
    read node = .ok a → read (Node.ofValue v) = .ok a

/-! ### Trees of values -/

theorem decodePieces_unit {n : Nat} (h : n < 0x20) (ps : List Piece) :
    decodePieces (.unit n :: ps) none = (Char.ofNat n :: ·) <$> decodePieces ps none := by
  have hsurrogate : ¬(0xD800 ≤ n ∧ n < 0xE000) := by omega
  have hhigh : ¬(0xD800 ≤ n ∧ n < 0xDC00) := by omega
  have hlow : ¬(0xDC00 ≤ n ∧ n < 0xE000) := by omega
  match ps with
  | [] => simp only [decodePieces, if_neg hsurrogate]; rfl
  | .unit m :: ps => rw [decodePieces, if_neg hhigh, if_neg hlow]
  | .char c :: ps => simp only [decodePieces, if_neg hsurrogate]

theorem decodePieces_ofChar (cs : List Char) :
    decodePieces (cs.map Piece.ofChar) none = .ok cs := by
  induction cs with
  | nil => rfl
  | cons c cs ih =>
    rw [List.map_cons, Piece.ofChar]
    split_ifs with hc
    · rw [decodePieces_unit hc.1, ih, Char.ofNat_toNat]
      rfl
    · rw [decodePieces, ih]
      rfl

theorem Quoted.text_ofString (s : String) : (Quoted.ofString s).text = .ok s := by
  rw [Quoted.text, Quoted.ofString, decodePieces_ofChar]
  simp [Functor.map, Except.map]

/-- A written value obeys the grammar. -/
theorem Node.skip_ofValue (v : Value) : (Node.ofValue v).skip = .ok () :=
  (Node.spelledAs_chars v).skip_eq

/-! ### The parts of a value that was read -/

theorem Value.ofNode_array {depth : Nat} {items : List Node} {close : Close} {v : Value}
    (h : Value.ofNode depth (.array items close) = .ok v) :
    ∃ d vs, Value.ofItems d items = .ok vs ∧ close = .done ∧ v = .array vs := by
  cases depth with
  | zero => cases h
  | succ d =>
    obtain ⟨vs, hvs, h⟩ := bind_eq_ok.1 h
    obtain ⟨⟨⟩, hclose, h⟩ := bind_eq_ok.1 h
    exact ⟨d, vs, hvs, Close.check_eq_ok_iff.1 hclose, (pure_eq_ok_iff.1 h).symm⟩

theorem Value.ofNode_object {depth : Nat} {members : List (Quoted × Node)} {close : Close}
    {v : Value} (h : Value.ofNode depth (.object members close) = .ok v) :
    ∃ d ms, Value.ofMembers d members = .ok ms ∧ close = .done ∧ v = .object (sortMembers ms) := by
  cases depth with
  | zero => cases h
  | succ d =>
    obtain ⟨ms, hms, h⟩ := bind_eq_ok.1 h
    obtain ⟨⟨⟩, hclose, h⟩ := bind_eq_ok.1 h
    exact ⟨d, ms, hms, Close.check_eq_ok_iff.1 hclose, (pure_eq_ok_iff.1 h).symm⟩

theorem Value.ofItems_cons {depth : Nat} {item : Node} {items : List Node} {vs : List Value}
    (h : Value.ofItems depth (item :: items) = .ok vs) :
    ∃ v vs', Value.ofNode depth item = .ok v ∧ Value.ofItems depth items = .ok vs' ∧
      vs = v :: vs' := by
  obtain ⟨v, hv, h⟩ := bind_eq_ok.1 h
  obtain ⟨vs', hvs, h⟩ := bind_eq_ok.1 h
  exact ⟨v, vs', hv, hvs, (pure_eq_ok_iff.1 h).symm⟩

theorem Value.ofMembers_cons {depth : Nat} {name : Quoted} {node : Node}
    {members : List (Quoted × Node)} {ms : List (String × Value)}
    (h : Value.ofMembers depth ((name, node) :: members) = .ok ms) :
    ∃ n v ms', name.text = .ok n ∧ Value.ofNode depth node = .ok v ∧
      Value.ofMembers depth members = .ok ms' ∧ ms = (n, v) :: ms' := by
  obtain ⟨n, hn, h⟩ := bind_eq_ok.1 h
  obtain ⟨v, hv, h⟩ := bind_eq_ok.1 h
  obtain ⟨ms', hms, h⟩ := bind_eq_ok.1 h
  exact ⟨n, v, ms', hn, hv, hms, (pure_eq_ok_iff.1 h).symm⟩

/-! ### Plain readers -/

namespace Reader

variable {α β : Type}

theorem stable_string : Stable string := by
  intro depth node v a hv ha
  cases node <;> simp only [string, reduceCtorEq] at ha
  next q =>
  obtain ⟨s, hs, rfl⟩ := map_eq_ok.1 hv
  obtain rfl : s = a := Except.ok.inj (hs.symm.trans ha)
  exact Quoted.text_ofString s

theorem stable_bool : Stable bool := by
  intro depth node v a hv ha
  cases node <;> simp only [bool, reduceCtorEq, Except.ok.injEq] at ha
  cases hv
  rw [ha]
  rfl

theorem Stable.bind {read : Reader α} (h : Stable read) (f : α → Except Error β) :
    Stable fun node => read node >>= f := by
  intro depth node v b hv hb
  obtain ⟨a, ha, hb⟩ := bind_eq_ok.1 hb
  exact bind_eq_ok.2 ⟨a, h hv ha, hb⟩

theorem Stable.map {read : Reader α} (h : Stable read) (f : α → β) :
    Stable fun node => f <$> read node := by
  intro depth node v b hv hb
  obtain ⟨a, ha, rfl⟩ := map_eq_ok.1 hb
  exact map_eq_ok.2 ⟨a, h hv ha, rfl⟩

/-- Only `null` is rewritten as `null`. -/
theorem ofNode_eq_null {depth : Nat} {node : Node} (h : Value.ofNode depth node = .ok .null) :
    node = .null := by
  cases node with
  | null => rfl
  | number n =>
    obtain ⟨m, -, hm⟩ := map_eq_ok.1 h
    cases hm
  | string q =>
    obtain ⟨s, -, hs⟩ := map_eq_ok.1 h
    cases hs
  | array items close =>
    obtain ⟨d, vs, -, -, hvs⟩ := Value.ofNode_array h
    cases hvs
  | object members close =>
    obtain ⟨d, ms, -, -, hms⟩ := Value.ofNode_object h
    cases hms
  | _ => cases h

theorem optional_of_ne_null {read : Reader α} {node : Node} (h : node ≠ .null) :
    optional read node = some <$> read node := by
  cases node <;> first | rfl | exact absurd rfl h

theorem stable_optional {read : Reader α} (h : Stable read) : Stable (optional read) := by
  intro depth node v a hv ha
  by_cases hnull : node = .null
  · subst hnull
    cases hv
    exact ha
  · rw [optional_of_ne_null hnull] at ha
    have hvalue : Node.ofValue v ≠ .null := by
      intro hvnull
      cases v <;> simp only [Node.ofValue, reduceCtorEq] at hvnull
      exact hnull (ofNode_eq_null hv)
    rw [optional_of_ne_null hvalue]
    exact h.map some hv ha

/-- The items that a stable reader makes of a list. -/
theorem Stable.mapM {read : Reader α} (h : Stable read) {depth : Nat} {items : List Node}
    {vs : List Value} {as : List α} (hvs : Value.ofItems depth items = .ok vs)
    (has : items.mapM read = .ok as) : (Node.ofItems vs).mapM read = .ok as := by
  induction items generalizing vs as with
  | nil =>
    cases hvs
    exact has
  | cons item items ih =>
    obtain ⟨v, vs', hv, hvs', rfl⟩ := Value.ofItems_cons hvs
    obtain ⟨a, as', ha, has', rfl⟩ := mapM_cons_eq_ok.1 has
    rw [Node.ofItems, mapM_cons_eq_ok]
    exact ⟨a, as', h hv ha, ih hvs' has', rfl⟩

theorem list_array_eq_ok {read : Reader α} {items : List Node} {close : Close} {as : List α} :
    list read (.array items close) = .ok as ↔ items.mapM read = .ok as ∧ close = .done := by
  rw [list]
  constructor
  · intro h
    obtain ⟨bs, hbs, h⟩ := bind_eq_ok.1 h
    obtain ⟨⟨⟩, hclose, h⟩ := bind_eq_ok.1 h
    cases pure_eq_ok_iff.1 h
    exact ⟨hbs, Close.check_eq_ok_iff.1 hclose⟩
  · rintro ⟨has, rfl⟩
    rw [has]
    rfl

theorem stable_list {read : Reader α} (h : Stable read) : Stable (list read) := by
  intro depth node v as hv ha
  cases node <;> simp only [list, reduceCtorEq] at ha
  next items close =>
  obtain ⟨d, vs, hvs, rfl, rfl⟩ := Value.ofNode_array hv
  have has := (list_array_eq_ok.1 ha).1
  exact list_array_eq_ok.2 ⟨h.mapM hvs has, rfl⟩

end Reader

end ContentBlocking.Json
