import ContentBlocking.Text.Measure
import Mathlib.Data.List.Basic

/-!
# The bytes of a text

All bytes of a character beyond ASCII are beyond ASCII themselves.  So a test that only ASCII
characters pass says the same of a byte as of the character that the byte is part of
(`Text.IsAsciiTest.eq_of_mem`), and a search of the bytes of a text ends at the first character that
passes (`Text.findIdx?_utf8EncodeChar`).  A text that is made of parts can be cut at their ends
(`Text.cut_of_append`).
-/

namespace ContentBlocking.Text

open String (utf8EncodeChar)

variable {text : String} {front middle back cs : List Char} {p q : Char → Bool} {c : Char}
  {b : UInt8}

/-! ### Lengths -/

theorem length_flatMap_utf8EncodeChar (cs : List Char) :
    (cs.flatMap utf8EncodeChar).length = byteLength cs := by
  induction cs with
  | nil => rfl
  | cons c cs ih =>
    rw [List.flatMap_cons, List.length_append, ih, String.length_utf8EncodeChar, byteLength_cons]

theorem bytes_eq (text : String) : bytes text = text.toList.flatMap utf8EncodeChar := by
  rw [bytes, ← String.utf8Encode_toList, List.utf8Encode, List.toList_data_toByteArray]

theorem length_bytes (text : String) : (bytes text).length = text.utf8ByteSize :=
  rfl

theorem utf8ByteSize_eq (text : String) : text.utf8ByteSize = byteLength text.toList := by
  rw [← length_bytes, bytes_eq, length_flatMap_utf8EncodeChar]

theorem byteLength_ne_zero_iff : byteLength cs ≠ 0 ↔ cs ≠ [] := by
  cases cs with
  | nil => simp
  | cons c cs =>
    have hc := c.utf8Size_pos
    rw [byteLength_cons]
    exact iff_of_true (by omega) (List.cons_ne_nil c cs)

/-! ### Tests of bytes -/

/-- A test that only ASCII characters pass. -/
def IsAsciiTest (p : Char → Bool) : Prop :=
  ∀ c, p c = true → c.toNat < 128

theorem IsAsciiTest.or (hp : IsAsciiTest p) (hq : IsAsciiTest q) :
    IsAsciiTest fun c => p c || q c := by
  intro c hc
  rcases Bool.or_eq_true_iff.1 hc with hc | hc
  · exact hp c hc
  · exact hq c hc

theorem isAsciiTest_beq (hc : c.toNat < 128) : IsAsciiTest (· == c) := by
  intro k hk
  rw [beq_iff_eq] at hk
  exact hk ▸ hc

theorem isAsciiTest_isAlphanum : IsAsciiTest Char.isAlphanum := by
  intro c hc
  have hle : ∀ last : Char, last.toNat < 128 → c.val ≤ last.val → c.toNat < 128 :=
    fun last hlast hle => Nat.lt_of_le_of_lt (UInt32.le_iff_toNat_le.1 hle) hlast
  rcases Bool.or_eq_true_iff.1 hc with halpha | hdigit
  · rcases Bool.or_eq_true_iff.1 halpha with hupper | hlower
    · exact hle 'Z' (by decide) (of_decide_eq_true hupper).2
    · exact hle 'z' (by decide) (of_decide_eq_true (Bool.and_eq_true_iff.1 hlower).2)
  · exact hle '9' (by decide) (of_decide_eq_true (Bool.and_eq_true_iff.1 hdigit).2)

theorem utf8EncodeChar_of_lt (hc : c.toNat < 128) :
    utf8EncodeChar c = [UInt8.ofNat c.toNat] := by
  have hval : c.val.toNat ≤ 127 := Nat.le_of_lt_succ hc
  rw [utf8EncodeChar, if_pos hval]
  rfl

/-- Every byte of a character beyond ASCII is beyond ASCII. -/
theorem le_of_mem_utf8EncodeChar (hc : 128 ≤ c.toNat) (hb : b ∈ utf8EncodeChar c) :
    128 ≤ b.toNat := by
  have hval : ¬c.val.toNat ≤ 127 := Nat.not_le_of_lt hc
  rw [utf8EncodeChar, if_neg hval] at hb
  -- one case for each number of bytes
  split_ifs at hb
  all_goals
    simp only [List.mem_cons, List.not_mem_nil, or_false] at hb
    rcases hb with rfl | rfl | rfl | rfl <;> simp only [UInt8.toNat_ofNat'] <;> omega

/-- **A byte passes a test of ASCII characters exactly if its character does.** -/
theorem IsAsciiTest.eq_of_mem (hp : IsAsciiTest p) (hb : b ∈ utf8EncodeChar c) :
    p (Char.ofUInt8 b) = p c := by
  have hcode : (Char.ofUInt8 b).toNat = b.toNat := rfl
  by_cases hc : c.toNat < 128
  · rw [utf8EncodeChar_of_lt hc, List.mem_singleton] at hb
    subst hb
    have hself : Char.ofUInt8 (UInt8.ofNat c.toNat) = c := by
      refine Char.toNat_inj.1 ?_
      rw [hcode, UInt8.toNat_ofNat']
      omega
    rw [hself]
  · have hbyte : ¬(Char.ofUInt8 b).toNat < 128 := by
      rw [hcode]
      exact Nat.not_lt.2 (le_of_mem_utf8EncodeChar (Nat.not_lt.1 hc) hb)
    rw [Bool.eq_false_iff.2 fun h => hc (hp c h), Bool.eq_false_iff.2 fun h => hbyte (hp _ h)]

theorem exists_utf8EncodeChar_eq_cons (c : Char) : ∃ b bs, utf8EncodeChar c = b :: bs :=
  List.exists_cons_of_ne_nil String.utf8EncodeChar_ne_nil

/-- All bytes of a text pass exactly if all its characters do. -/
theorem IsAsciiTest.all_utf8EncodeChar (hp : IsAsciiTest p) (cs : List Char) :
    ((cs.flatMap utf8EncodeChar).all fun b => p (Char.ofUInt8 b)) = cs.all p := by
  rw [List.all_flatMap]
  refine congrArg cs.all (funext fun c => ?_)
  obtain ⟨b, bs, hbytes⟩ := exists_utf8EncodeChar_eq_cons c
  rw [Bool.eq_iff_iff, List.all_eq_true]
  constructor
  · intro hall
    rw [← hp.eq_of_mem (hbytes ▸ List.mem_cons_self)]
    exact hall b (hbytes ▸ List.mem_cons_self)
  · intro hc b hb
    rw [hp.eq_of_mem hb, hc]

/-- **A search of the bytes stops at the first character that passes.** -/
theorem IsAsciiTest.findIdx?_utf8EncodeChar (hp : IsAsciiTest p) (cs : List Char) :
    (cs.flatMap utf8EncodeChar).findIdx? (fun b => p (Char.ofUInt8 b)) =
      if cs.dropWhile (!p ·) = [] then none else some (byteLength (cs.takeWhile (!p ·))) := by
  induction cs with
  | nil => rfl
  | cons c cs ih =>
    rw [List.flatMap_cons]
    cases hc : p c with
    | true =>
      obtain ⟨b, bs, hbytes⟩ := exists_utf8EncodeChar_eq_cons c
      have hb : p (Char.ofUInt8 b) = true := by
        rw [hp.eq_of_mem (hbytes ▸ List.mem_cons_self), hc]
      simp [hbytes, List.findIdx?_cons, hb, hc]
    | false =>
      have hnone : (utf8EncodeChar c).findIdx? (fun b => p (Char.ofUInt8 b)) = none := by
        refine List.findIdx?_eq_none_iff.2 fun b hb => ?_
        rw [hp.eq_of_mem hb, hc]
      rw [List.findIdx?_append, hnone, Option.none_or, ih, String.length_utf8EncodeChar,
        List.dropWhile_cons_of_pos (by simp [hc]), List.takeWhile_cons_of_pos (by simp [hc])]
      split_ifs
      · rfl
      · rw [Option.map_some, byteLength_cons, Nat.add_comm]

/-! ### Cuts -/

/-- A text can be cut where one of its parts ends. -/
theorem isValid_of_append (h : text.toList = front ++ back) :
    String.Pos.Raw.IsValid text ⟨byteLength front⟩ := by
  refine String.Pos.Raw.isValid_iff_exists_append.2
    ⟨String.ofList front, String.ofList back, ?_, ?_⟩
  · rw [← String.ofList_append, ← h, String.ofList_toList]
  · rw [String.rawEndPos, utf8ByteSize_eq, String.toList_ofList]

/-- **What is cut out between two parts of a text is the part between them.** -/
theorem cut_of_append (h : text.toList = front ++ (middle ++ back)) :
    cut text (byteLength front) (byteLength front + byteLength middle) =
      .ok (String.ofList middle) := by
  have hlast : String.Pos.Raw.IsValid text ⟨byteLength front + byteLength middle⟩ := by
    rw [← byteLength_append]
    exact isValid_of_append (by rw [h, List.append_assoc])
  rw [cut, dif_pos ⟨Nat.le_add_right _ _, isValid_of_append h, hlast⟩]
  refine congrArg Except.ok (String.toByteArray_inj.1 ?_)
  have hsize : ∀ cs : List Char, cs.utf8Encode.size = byteLength cs := by
    intro cs
    rw [List.utf8Encode, List.size_toByteArray, length_flatMap_utf8EncodeChar]
  have hskip := ByteArray.extract_append_size_add' (a := front.utf8Encode)
    (b := middle.utf8Encode ++ back.utf8Encode) (i := 0) (j := byteLength middle)
    (hsize front).symm
  rw [String.toByteArray_extract, String.toByteArray_ofList, ← String.utf8Encode_toList, h,
    List.utf8Encode_append, List.utf8Encode_append]
  rw [Nat.add_zero, ByteArray.extract_append_eq_left (hsize middle).symm] at hskip
  exact hskip

end ContentBlocking.Text
