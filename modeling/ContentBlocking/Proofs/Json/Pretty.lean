import ContentBlocking.Proofs.Json.Document

/-!
# The syntax tree of a value with one member or item a line

New lines and blanks between the tokens leave no trace in the syntax tree: the pretty text of a
value spells the same tree as its compact text (`Node.spelledAs_prettyChars`), so it is read as that
tree and leaves nothing behind (`Document.read_pretty`).
-/

namespace ContentBlocking.Json

open Text (joinWith)

theorem isSpacing_newline (level : Nat) : IsSpacing (newline level) := by
  intro c hc
  rcases List.mem_cons.1 hc with rfl | hc
  · decide
  · rw [List.eq_of_mem_replicate hc]
    decide

theorem prettyItems_eq (level : Nat) (items : List Value) : Value.prettyItems level items =
    joinWith ',' (items.map fun v => newline level ++ v.prettyChars level) := by
  induction items with
  | nil => rfl
  | cons item items ih =>
    cases items with
    | nil => rfl
    | cons next items => rw [Value.prettyItems, ih]; rfl

theorem prettyMembers_eq (level : Nat) (members : List (String × Value)) :
    Value.prettyMembers level members = joinWith ','
      ((members.map (.ofMember (newline level) fun v => ' ' :: v.prettyChars level)).map
        SpelledMember.chars) := by
  induction members with
  | nil => rfl
  | cons m members ih =>
    cases members with
    | nil => rfl
    | cons next members => rw [Value.prettyMembers, ih]; rfl

mutual

/-- The pretty text of a value spells its tree. -/
theorem Node.spelledAs_prettyChars (level : Nat) (v : Value) :
    (Node.ofValue v).SpelledAs (v.prettyChars level) := by
  match v with
  | .null => exact .wordNull
  | .bool true => exact .wordTrue
  | .bool false => exact .wordFalse
  | .number n => exact .number (Numeral.spelledAs_text n.numeral_regular)
  | .string s => exact .string (Quoted.spelledAs_quote s)
  | .array [] => exact .emptyArray .nil
  | .array (item :: items) =>
    rw [Value.prettyChars, prettyItems_eq, List.cons_append, List.cons_append,
      List.append_assoc]
    exact Node.spelledAs_ofItems (by simp)
      (Node.spelledAs_prettyChars_of_items (level + 1) (item :: items)) (isSpacing_newline level)
  | .object [] => exact .emptyObject .nil
  | .object (member :: members) =>
    rw [Value.prettyChars, prettyMembers_eq, List.cons_append, List.cons_append,
      List.append_assoc]
    exact Node.spelledAs_ofMembers (by simp) (isSpacing_newline (level + 1))
      (Node.spelledAs_prettyChars_of_members (level + 1) (member :: members))
      (isSpacing_newline level)

theorem Node.spelledAs_prettyChars_of_items (level : Nat) (items : List Value) :
    ∀ v ∈ items, (Node.ofValue v).SpelledAs (newline level ++ v.prettyChars level) := by
  match items with
  | [] => simp
  | item :: items =>
    refine List.forall_mem_cons.2 ⟨?_, Node.spelledAs_prettyChars_of_items level items⟩
    have hspaced := (Node.spelledAs_prettyChars level item).spaced (isSpacing_newline level) .nil
    rwa [List.append_nil] at hspaced

theorem Node.spelledAs_prettyChars_of_members (level : Nat) (members : List (String × Value)) :
    ∀ m ∈ members, (Node.ofValue m.2).SpelledAs (' ' :: m.2.prettyChars level) := by
  match members with
  | [] => simp
  | (name, value) :: members =>
    refine List.forall_mem_cons.2 ⟨?_, Node.spelledAs_prettyChars_of_members level members⟩
    have hspaced := (Node.spelledAs_prettyChars level value).spaced
      (show IsSpacing [' '] by simp [IsSpacing, isSpace]) .nil
    rwa [List.append_nil, List.singleton_append] at hspaced

end

/-- **Reading the pretty text of a value gives its tree and leaves nothing behind.** -/
theorem Document.read_pretty (v : Value) : Document.read v.pretty = ⟨Node.ofValue v, false⟩ := by
  refine Document.read_eq_of_spelledAs ?_
  rw [Value.pretty, String.toList_ofList]
  exact Node.spelledAs_prettyChars 0 v

end ContentBlocking.Json
