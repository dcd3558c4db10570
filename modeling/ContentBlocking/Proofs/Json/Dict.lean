import ContentBlocking.Proofs.Json.Pretty
import ContentBlocking.Proofs.Json.Rereading

/-!
# Dictionaries that are written and read back

A dictionary is written as an object of its entries and read back as it was, if the value of each
entry is (`Reader.dict_ofDict`).  Natural numbers of 64 bits are (`Reader.natural_ofValue`), and a
dictionary of natural numbers that was read from any text holds no other ones
(`Reader.exists_of_dict`, `Reader.lt_of_natural`).
-/

namespace ContentBlocking.Json

/-! ### Natural numbers -/

theorem Numeral.natOfDigits_digitsOfNat (n : Nat) : natOfDigits (digitsOfNat n) = n := by
  have heq : Nat.ofDigitChars 10 (Nat.toDigits 10 n) 0 = natOfDigits (digitsOfNat n) :=
    Nat.ofDigitChars_eq_foldl
  rw [← heq, Nat.ofDigitChars_ten_toDigits]

theorem Numeral.value_ofNat {n : Nat} (h : n < wordSize) :
    (Numeral.ofInt n).value = .ok (.integer n) := by
  have hnonneg : ¬(n : Int) < 0 := by omega
  simp [value, ofInt, natOfDigits_digitsOfNat, hnonneg, h]

/-- An integer that was read from a numeral without a sign has 64 bits. -/
theorem Numeral.lt_of_value {m : Numeral} {n : Nat} (h : m.value = .ok (.integer n)) :
    n < wordSize := by
  simp only [value] at h
  split_ifs at h with hplain hnegative hsmall hword
  · split at h <;> cases h
  · -- a number below zero is no natural number
    simp only [Except.ok.injEq, Number.integer.injEq] at h
    omega
  · split at h <;> cases h
  · simp only [Except.ok.injEq, Number.integer.injEq, Int.natCast_inj] at h
    exact h ▸ hword
  · split at h <;> cases h

namespace Reader

theorem natural_ofValue {n : Nat} (h : n < Numeral.wordSize) :
    natural (Node.ofValue (.nat n)) = .ok n := by
  rw [Value.nat, Node.ofValue, Number.numeral, natural, Numeral.value_ofNat h]
  rfl

/-- A natural number that was read has 64 bits. -/
theorem lt_of_natural {node : Node} {n : Nat} (h : natural node = .ok n) :
    n < Numeral.wordSize := by
  cases node with
  | number m =>
    obtain ⟨v, hv, hn⟩ := bind_eq_ok.1 h
    split at hn
    · next i =>
      obtain rfl := pure_eq_ok_iff.1 hn
      exact Numeral.lt_of_value hv
    · cases hn
  | _ => cases h

/-! ### Dictionaries -/

variable {α : Type} {read : Reader α} {write : α → Value}

/-- A dictionary with one more member of an object. -/
def insertMember (read : Reader α) (d : Dict α) (member : Quoted × Node) :
    Except Error (Dict α) := do
  let name ← member.1.text
  return d.insert name (← read member.2)

theorem dict_object (members : List (Quoted × Node)) (close : Close) :
    dict read (.object members close) = do
      let d ← members.foldlM (insertMember read) ∅
      close.check
      return d := rfl

/-- The entries of a dictionary are those that it began with and those that were read. -/
theorem exists_of_foldlM {members : List (Quoted × Node)} {d d' : Dict α} {key : String} {a : α}
    (h : members.foldlM (insertMember read) d = .ok d') (hkey : d'[key]? = some a) :
    d[key]? = some a ∨ ∃ item, read item = .ok a := by
  induction members generalizing d with
  | nil =>
    rw [List.foldlM_nil, pure_eq_ok_iff] at h
    exact .inl (h ▸ hkey)
  | cons member members ih =>
    rw [List.foldlM_cons] at h
    obtain ⟨d₁, hinsert, h⟩ := bind_eq_ok.1 h
    obtain ⟨name, -, hinsert⟩ := bind_eq_ok.1 hinsert
    obtain ⟨b, hb, hinsert⟩ := bind_eq_ok.1 hinsert
    obtain rfl := pure_eq_ok_iff.1 hinsert
    rcases ih h with hd | hread
    · rw [Std.ExtTreeMap.getElem?_insert] at hd
      split_ifs at hd with hname
      · obtain rfl := Option.some.inj hd
        exact .inr ⟨_, hb⟩
      · exact .inl hd
    · exact .inr hread

/-- The entries of a dictionary that was read were read themselves. -/
theorem exists_of_dict {node : Node} {d : Dict α} {key : String} {a : α}
    (h : dict read node = .ok d) (hkey : d[key]? = some a) : ∃ item, read item = .ok a := by
  cases node with
  | object members close =>
    rw [dict_object] at h
    obtain ⟨d', hfold, h⟩ := bind_eq_ok.1 h
    obtain ⟨⟨⟩, -, h⟩ := bind_eq_ok.1 h
    obtain rfl := pure_eq_ok_iff.1 h
    rcases exists_of_foldlM hfold hkey with hempty | hread
    · simp at hempty
    · exact hread
  | _ => cases h

/-- Written entries are read back one after the other. -/
theorem foldlM_ofMembers {entries : List (String × α)}
    (h : ∀ m ∈ entries, read (Node.ofValue (write m.2)) = .ok m.2) (d : Dict α) :
    (Node.ofMembers (entries.map fun m => (m.1, write m.2))).foldlM (insertMember read) d =
      .ok (entries.foldl (fun d m => d.insert m.1 m.2) d) := by
  induction entries generalizing d with
  | nil => rfl
  | cons m entries ih =>
    have hinsert : insertMember read d (Quoted.ofString m.1, Node.ofValue (write m.2)) =
        .ok (d.insert m.1 m.2) := by
      rw [insertMember, Quoted.text_ofString, ok_bind, h m List.mem_cons_self]
      rfl
    rw [List.map_cons, Node.ofMembers, List.foldlM_cons, hinsert, ok_bind, List.foldl_cons]
    exact ih (fun m' hm' => h m' (List.mem_cons_of_mem _ hm')) _

theorem ofList_toList (d : Dict α) : Std.ExtTreeMap.ofList d.toList compare = d := by
  apply Std.ExtTreeMap.ext_getElem?
  intro key
  cases hkey : d[key]? with
  | some a =>
    exact Std.ExtTreeMap.getElem?_ofList_of_mem (Std.LawfulEqCmp.compare_eq_iff_eq.2 rfl)
      Std.ExtTreeMap.distinct_keys_toList (Std.ExtTreeMap.mem_toList_iff_getElem?_eq_some.2 hkey)
  | none =>
    apply Std.ExtTreeMap.getElem?_ofList_of_contains_eq_false
    rw [Bool.eq_false_iff]
    intro hmem
    obtain ⟨⟨key', a⟩, ha, rfl⟩ := List.mem_map.1 (List.contains_iff_mem.1 hmem)
    rw [Std.ExtTreeMap.mem_toList_iff_getElem?_eq_some.1 ha] at hkey
    cases hkey

/-- A dictionary is read back from its entries, if their values are. -/
theorem dict_ofDict {d : Dict α}
    (h : ∀ (key : String) (a : α), d[key]? = some a → read (Node.ofValue (write a)) = .ok a) :
    dict read (Node.ofValue (.object (d.toList.map fun m => (m.1, write m.2)))) = .ok d := by
  have hentries : ∀ m ∈ d.toList, read (Node.ofValue (write m.2)) = .ok m.2 := fun m hm =>
    h m.1 m.2 (Std.ExtTreeMap.mem_toList_iff_getElem?_eq_some.1 hm)
  rw [Node.ofValue, dict_object, foldlM_ofMembers hentries, ok_bind,
    ← Std.ExtTreeMap.ofList_eq_foldl, ofList_toList]
  rfl

end Reader

end ContentBlocking.Json
