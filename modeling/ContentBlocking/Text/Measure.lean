/-!
# Letter case, byte lengths and cuts

Host names and list names are compared after `Text.lower`, which knows the ASCII letters only.
Positions inside a text are counted in bytes of its UTF-8 form, `Text.byteLength`.  A text can be
cut (`Text.cut`) at the positions that do not fall inside a character.
-/

namespace ContentBlocking.Text

/-- The text with the ASCII capitals `A` to `Z` made small and all else left alone. -/
def lower (s : String) : String :=
  String.ofList (s.toList.map Char.toLower)

/-- The number of bytes of a text in UTF-8. -/
def byteLength : List Char → Nat
  | [] => 0
  | c :: cs => c.utf8Size + byteLength cs

@[simp] theorem byteLength_nil : byteLength [] = 0 := rfl

@[simp] theorem byteLength_cons (c : Char) (cs : List Char) :
    byteLength (c :: cs) = c.utf8Size + byteLength cs := rfl

@[simp] theorem byteLength_append (a b : List Char) :
    byteLength (a ++ b) = byteLength a + byteLength b := by
  induction a with
  | nil => simp
  | cons c cs ih => simp [ih, Nat.add_assoc]

/-- A character has four bytes at most. -/
theorem byteLength_le (cs : List Char) : byteLength cs ≤ 4 * cs.length := by
  induction cs with
  | nil => simp
  | cons c cs ih =>
    have hc := c.utf8Size_le_four
    rw [byteLength_cons, List.length_cons]
    omega

/-- The bytes of a text in UTF-8. -/
def bytes (text : String) : List UInt8 :=
  text.toByteArray.data.toList

/-- Two byte offsets between which there is no text. -/
structure BadCut where
  first : Nat
  last : Nat
  deriving DecidableEq, Repr

/-- The text between two byte offsets.  They must stand in order and not inside a character. -/
def cut (text : String) (first last : Nat) : Except BadCut String :=
  if h : first ≤ last ∧ String.Pos.Raw.IsValid text ⟨first⟩ ∧
      String.Pos.Raw.IsValid text ⟨last⟩ then
    .ok (String.extract (⟨⟨first⟩, h.2.1⟩ : text.Pos) ⟨⟨last⟩, h.2.2⟩)
  else
    .error ⟨first, last⟩

@[simp] theorem toList_lower (s : String) : (lower s).toList = s.toList.map Char.toLower := by
  simp [lower]

end ContentBlocking.Text
