import ContentBlocking.Json.Node

/-!
# Reading values from the syntax tree

A reader of type `Reader α` takes a syntax tree to a value or to the first problem it meets from
left to right.  Typed readers notice a wrong type as soon as they reach it; `Value.ofNode` accepts
every type but checks ranges, escapes and the depth of nesting; `Node.skip` checks the grammar only.
-/

namespace ContentBlocking.Json

/-- A reader of values of type `α`. -/
abbrev Reader (α : Type) := Node → Except Error α

/-- The problem of an array or object that does not end as it should. -/
def Close.check : Close → Except Error Unit
  | .done => .ok ()
  | .truncated | .truncatedAfterComma => .error .truncated
  | .malformed | .stray _ => .error .malformed

/-! ### Values of any type -/

mutual

/-- A value that is only checked to be JSON by its grammar. -/
def Node.skip : Node → Except Error Unit
  | .absent => .error .truncated
  | .junk => .error .malformed
  | .brokenWord e => .error e
  | .brokenNumeral _ => .error .malformed
  | .null | .bool _ | .number _ => .ok ()
  | .string q => match q.fault with
    | none => .ok ()
    | some e => .error e
  | .array items close => do
    skipItems items
    close.check
  | .object members close => do
    skipMembers members
    close.check

/-- The items of a skipped array. -/
def skipItems : List Node → Except Error Unit
  | [] => .ok ()
  | item :: items => do
    item.skip
    skipItems items

/-- The members of a skipped object. -/
def skipMembers : List (Quoted × Node) → Except Error Unit
  | [] => .ok ()
  | (name, value) :: members => do
    match name.fault with
    | none => .ok ()
    | some e => .error e
    value.skip
    skipMembers members

end

/-- The members of an object sorted by name, the last one of each name. -/
def sortMembers (members : List (String × Value)) : List (String × Value) :=
  (Std.ExtTreeMap.ofList members compare).toList

mutual

/-- The value of a syntax tree, with at most `depth` arrays and objects in one another. -/
def Value.ofNode (depth : Nat) : Node → Except Error Value
  | .null => .ok .null
  | .bool b => .ok (.bool b)
  | .number n => .number <$> n.value
  | .string q => .string <$> q.text
  | .array items close =>
    match depth with
    | 0 => .error .malformed
    | depth + 1 => do
      let items ← ofItems depth items
      close.check
      return .array items
  | .object members close =>
    match depth with
    | 0 => .error .malformed
    | depth + 1 => do
      let members ← ofMembers depth members
      close.check
      return .object (sortMembers members)
  | .absent => .error .truncated
  | .junk => .error .malformed
  | .brokenWord e => .error e
  | .brokenNumeral atEnd => .error (if atEnd then .truncated else .malformed)

/-- The items of an array. -/
def Value.ofItems (depth : Nat) : List Node → Except Error (List Value)
  | [] => .ok []
  | item :: items => do
    let value ← Value.ofNode depth item
    return value :: (← ofItems depth items)

/-- The members of an object, in the order of the text. -/
def Value.ofMembers (depth : Nat) : List (Quoted × Node) → Except Error (List (String × Value))
  | [] => .ok []
  | (name, node) :: members => do
    let name ← name.text
    let value ← Value.ofNode depth node
    return (name, value) :: (← ofMembers depth members)

end

/-- Arrays and objects may stand in one another to this depth. -/
def maxDepth : Nat := 127

/-- A value of any type. -/
def Reader.any : Reader Value := Value.ofNode maxDepth

/-! ### Typed readers -/

namespace Reader

/-- A text. -/
def string : Reader String
  | .string q => q.text
  | node => .error node.mismatch

/-- A truth value. -/
def bool : Reader Bool
  | .bool b => .ok b
  | node => .error node.mismatch

/-- A natural number of 64 bits. -/
def natural : Reader Nat
  | .number n => do
    match ← n.value with
    | .integer (.ofNat i) => return i
    | _ => throw .mismatched
  | node => .error node.mismatch

/-- A value or `null`. -/
def optional {α : Type} (read : Reader α) : Reader (Option α)
  | .null => .ok none
  | node => some <$> read node

/-- An array of values. -/
def list {α : Type} (read : Reader α) : Reader (List α)
  | .array items close => do
    let values ← items.mapM read
    close.check
    return values
  | node => .error node.mismatch

/-- An object of values, the last one of each name. -/
def dict {α : Type} (read : Reader α) : Reader (Dict α)
  | .object members close => do
    let values ← members.foldlM (fun (d : Dict α) (name, node) => do
      let name ← name.text
      return d.insert name (← read node)) ∅
    close.check
    return values
  | node => .error node.mismatch

/-- One of several named values, written as its name or as an object with that name and `null`. -/
def variant {α : Type} (ofName? : String → Option α) : Reader α
  | .string q => do
    match ofName? (← q.text) with
    | some a => return a
    | none => throw .mismatched
  | .object [] close =>
    match close with
    | .truncated => .error .truncated
    | .stray e => .error e
    | _ => .error .malformed
  | .object ((name, node) :: members) close => do
    match ofName? (← name.text) with
    | none => throw .mismatched
    | some a =>
      match node with
      | .null =>
        match members, close with
        | [], .done => return a
        | [], .truncated => throw .truncated
        | _, _ => throw .malformed
      | node => throw node.mismatch
  | .absent => .error .truncated
  | _ => .error .malformed

end Reader

/-! ### Records -/

/-- One place of a record under construction. -/
structure Slot (σ : Type) where
  name : String
  /-- The record has a value in this place. -/
  isFilled : σ → Bool
  fill : σ → Reader σ

/-- The place that is read by `get` and written by `set`. -/
def Slot.of {σ α : Type} (name : String) (get : σ → Option α) (set : σ → α → σ)
    (read : Reader α) : Slot σ :=
  { name, isFilled := fun s => (get s).isSome, fill := fun s node => set s <$> read node }

/-- The members of an object put into their places; a name without a place is skipped and a place
cannot be filled twice. -/
def fillMembers {σ : Type} (slots : List (Slot σ)) (s : σ) :
    List (Quoted × Node) → Except Error σ
  | [] => .ok s
  | (name, node) :: members => do
    let name ← name.text
    match slots.find? (·.name == name) with
    | none => do
      node.skip
      fillMembers slots s members
    | some slot =>
      if slot.isFilled s then .error .mismatched
      else do fillMembers slots (← slot.fill s node) members

/-- The items of an array put into the places in their order; there may be fewer but not more. -/
def fillItems {σ : Type} (s : σ) : List (Slot σ) → List Node → Close → Except Error σ
  | [], [], .done => .ok s
  | [], [], .truncated => .error .truncated
  | [], _, _ => .error .malformed
  | _ :: _, [], close => do
    close.check
    return s
  | slot :: slots, item :: items, close => do
    fillItems (← slot.fill s item) slots items close

/-- A record, written as an object of its members or as an array of them in their order. -/
def Reader.fields {σ : Type} (slots : List (Slot σ)) (blank : σ) : Reader σ
  | .array items close => fillItems blank slots items close
  | .object members close => do
    let s ← fillMembers slots blank members
    close.check
    return s
  | node => .error node.mismatch

/-- A member that a record cannot do without. -/
def required {α : Type} : Option α → Except Error α
  | some a => .ok a
  | none => .error .mismatched

/-! ### Whole texts -/

/-- The value of a text that holds nothing else. -/
def Reader.run {α : Type} (read : Reader α) (text : String) : Except Error α := do
  let document := Document.read text
  let value ← read document.root
  if document.trailing then throw .malformed
  return value

end ContentBlocking.Json
