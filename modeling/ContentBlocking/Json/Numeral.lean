import ContentBlocking.Json.Value

/-!
# Numerals

A numeral is the spelling of a JSON number.  Its value is an integer where 64 bits hold it;
otherwise it is a double that is reached by one rounded product or quotient with a power of ten,
and leading digits beyond 64 bits only count as places.
-/

namespace ContentBlocking.Json

/-- The spelling of a JSON number. -/
structure Numeral where
  negative : Bool
  /-- The digits before the point. -/
  whole : List Char
  /-- The digits after the point, none if there is no point. -/
  fraction : List Char
  /-- The sign and the digits after the `e`. -/
  exponent : Option (Bool × List Char)
  deriving DecidableEq, Repr

namespace Numeral

/-- The value of a decimal digit. -/
def digit (c : Char) : Nat := c.toNat - 48

/-- The number that decimal digits write. -/
def natOfDigits (ds : List Char) : Nat :=
  ds.foldl (fun n c => 10 * n + digit c) 0

/-- The decimal digits of a number, in the order of writing. -/
def digitsOfNat (n : Nat) : List Char := Nat.toDigits 10 n

/-- The number of values of 64 bits. -/
def wordSize : Nat := 0x10000000000000000

/-- A number `significand * 10 ^ places` whose significand has 64 bits. -/
structure Scaled where
  significand : Nat
  places : Int

/-- A digit before the point: a place once the significand is full. -/
def Scaled.pushWhole (s : Scaled) (c : Char) : Scaled :=
  let next := 10 * s.significand + digit c
  if s.places = 0 ∧ next < wordSize then ⟨next, 0⟩ else ⟨s.significand, s.places + 1⟩

/-- The digits after the point, up to the first for which the significand has no room. -/
def Scaled.pushFraction (s : Scaled) : List Char → Scaled
  | [] => s
  | c :: cs =>
    let next := 10 * s.significand + digit c
    if next < wordSize then pushFraction ⟨next, s.places - 1⟩ cs else s

/-- The significand and the places of a numeral without its exponent. -/
def scaled (n : Numeral) : Scaled :=
  (n.whole.foldl Scaled.pushWhole ⟨0, 0⟩).pushFraction n.fraction

/-- The double `x * 10 ^ e`, by powers of ten that are doubles themselves; none if too large. -/
def scale (x : Binary64) (e : Int) : Nat → Option Binary64
  | 0 => some .zero
  | fuel + 1 =>
    if e.natAbs ≤ 308 then do
      let power ← Binary64.ofNat (Nat.pow 10 e.natAbs)
      if 0 ≤ e then x.mul power else x.div power
    else if x.mantissa = 0 then some x
    else if 0 ≤ e then none
    else do
      let power ← Binary64.ofNat (Nat.pow 10 308)
      scale (← x.div power) (e + 308) fuel

/-- The magnitude of a numeral as a double; none if it is too large. -/
def magnitude (n : Numeral) : Option Binary64 := do
  let s := n.scaled
  let x ← Binary64.ofNat s.significand
  match n.exponent with
  | none => scale x s.places 4
  | some (negative, digits) =>
    let e := natOfDigits digits
    if e < 0x80000000 then scale x (if negative then s.places - e else s.places + e) 4
    else if s.significand = 0 ∨ negative then some .zero
    else none

/-- The value of a numeral; a double that is too large is malformed. -/
def value (n : Numeral) : Except Error Number :=
  let i := natOfDigits n.whole
  let real : Except Error Number :=
    match n.magnitude with
    | some x => .ok (.real n.negative x)
    | none => .error .malformed
  if n.fraction ≠ [] ∨ n.exponent ≠ none then real
  else if n.negative then if 0 < i ∧ i ≤ 0x8000000000000000 then .ok (.integer (-i)) else real
  else if i < wordSize then .ok (.integer i) else real

/-- The spelling of a numeral. -/
def text (n : Numeral) : List Char :=
  (if n.negative then ['-'] else []) ++ n.whole ++
    (if n.fraction = [] then [] else '.' :: n.fraction) ++
    match n.exponent with
    | none => []
    | some (negative, digits) => 'e' :: (if negative then '-' else '+') :: digits

end Numeral

/-- The spelling in which an integer is written. -/
def Numeral.ofInt (i : Int) : Numeral :=
  ⟨i < 0, Numeral.digitsOfNat i.natAbs, [], none⟩

/-- The spelling in which a double is written: its shortest digits, with a point where the
decimal exponent is from -5 to 15 and with an exponent otherwise. -/
def Numeral.ofReal (negative : Bool) (x : Binary64) : Numeral :=
  let (c, e) := x.shortest
  if c = 0 then ⟨negative, ['0'], ['0'], none⟩ else
  let digits := Numeral.digitsOfNat c
  let significant := ((digits.reverse.dropWhile (· == '0')).reverse)
  let point : Int := digits.length + e
  if -5 < point ∧ point ≤ 16 then
    if point ≤ 0 then
      ⟨negative, ['0'], List.replicate (-point).toNat '0' ++ significant, none⟩
    else
      let places := point.toNat
      let whole := significant.take places
      let fraction := significant.drop places
      ⟨negative, whole ++ List.replicate (places - whole.length) '0',
        if fraction = [] then ['0'] else fraction, none⟩
  else
    ⟨negative, significant.take 1, significant.drop 1,
      some (point - 1 < 0, Numeral.digitsOfNat (point - 1).natAbs)⟩

/-- The spelling in which a number is written. -/
def Number.numeral : Number → Numeral
  | .integer i => .ofInt i
  | .real negative x => .ofReal negative x

end ContentBlocking.Json
