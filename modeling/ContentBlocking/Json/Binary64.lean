/-!
# Double-precision magnitudes

The finite non-negative numbers of the binary64 format, in exact natural-number arithmetic.
`Binary64.round` takes a quotient to the nearest of them, a tie to the even mantissa, and
`Binary64.shortest` gives the fewest decimal digits that no other one of them is nearer to.
-/

namespace ContentBlocking

/-- The number `mantissa * 2 ^ exponent`. -/
structure Binary64 where
  mantissa : Nat
  exponent : Int
  deriving DecidableEq, Repr, Inhabited

namespace Binary64

/-- The least mantissa of a number that is not written with the least exponent. -/
def hiddenBit : Nat := 0x10000000000000

/-- The number zero. -/
def zero : Binary64 := ⟨0, 0⟩

/-- A number is written as the quotient of `numerator` and `denominator`. -/
def numerator (x : Binary64) : Nat := x.mantissa * Nat.pow 2 x.exponent.toNat

@[inherit_doc numerator]
def denominator (x : Binary64) : Nat := Nat.pow 2 (-x.exponent).toNat

/-- The quotient of two numbers to the nearest integer, a half to the even one. -/
def divRoundEven (n d : Nat) : Nat :=
  let q := n / d
  let twice := 2 * (n % d)
  if twice < d then q else if twice > d then q + 1 else q + q % 2

/-- The quotient of `n * 2 ^ -e` and `d`, to the nearest integer. -/
def scaledRoundEven (n d : Nat) (e : Int) : Nat :=
  divRoundEven (n * Nat.pow 2 (-e).toNat) (d * Nat.pow 2 e.toNat)

/-- The double nearest to `n / d`; none if it is too large for the format. -/
def round (n d : Nat) : Option Binary64 :=
  if n = 0 then some zero else
  let low : Int := max ((n.log2 : Int) - d.log2 - 53) (-1074)
  let quotient := n * Nat.pow 2 (-low).toNat / (d * Nat.pow 2 low.toNat)
  let exponent := if quotient < 2 * hiddenBit then low else low + 1
  let mantissa := scaledRoundEven n d exponent
  let x : Binary64 :=
    if mantissa = 2 * hiddenBit then ⟨hiddenBit, exponent + 1⟩ else ⟨mantissa, exponent⟩
  if x.mantissa = 0 then some zero else if x.exponent > 971 then none else some x

/-- The double nearest to a natural number. -/
def ofNat (n : Nat) : Option Binary64 := round n 1

/-- The rounded product. -/
def mul (x y : Binary64) : Option Binary64 :=
  round (x.numerator * y.numerator) (x.denominator * y.denominator)

/-- The rounded quotient; the divisor is not zero. -/
def div (x y : Binary64) : Option Binary64 :=
  round (x.numerator * y.denominator) (x.denominator * y.numerator)

/-! ### Shortest decimal digits -/

/-- The number of decimal digits before the point of `n / d`; negative or zero counts the zeros
after the point of a number below one tenth. -/
def magnitude (n d : Nat) : Int :=
  if d ≤ n then (Nat.toDigits 10 (n / d)).length else 1 - zeros n 400
where
  /-- The least power of ten that lifts `n` to `d`. -/
  zeros (m : Nat) : Nat → Int
    | 0 => 0
    | fuel + 1 => if d ≤ m then 0 else 1 + zeros (10 * m) fuel

/-- The interval of the numbers that round to a double: twice its half gaps, in quarter units. -/
structure Interval where
  low : Nat
  centre : Nat
  high : Nat
  denominator : Nat
  /-- The ends round to the double as well. -/
  closed : Bool

/-- The interval of the numbers that round to `x`. -/
def interval (x : Binary64) : Interval :=
  let unit := Nat.pow 2 (x.exponent - 2).toNat
  let gap := if x.mantissa = hiddenBit ∧ x.exponent > -1074 then 1 else 2
  { low := (4 * x.mantissa - gap) * unit
    centre := 4 * x.mantissa * unit
    high := (4 * x.mantissa + 2) * unit
    denominator := Nat.pow 2 (2 - x.exponent).toNat
    closed := x.mantissa % 2 = 0 }

/-- Whether `c * 10 ^ e` lies in an interval. -/
def Interval.contains (i : Interval) (c : Nat) (e : Int) : Bool :=
  let n := c * Nat.pow 10 e.toNat * i.denominator
  let d := Nat.pow 10 (-e).toNat
  if i.closed then i.low * d ≤ n && n ≤ i.high * d else i.low * d < n && n < i.high * d

/-- The decimal `c * 10 ^ e` in an interval with the unit `10 ^ e`, the nearer one of two. -/
def Interval.onGrid (i : Interval) (e : Int) : Option Nat :=
  let n := i.centre * Nat.pow 10 (-e).toNat
  let d := i.denominator * Nat.pow 10 e.toNat
  let c := n / d
  let nearest := divRoundEven n d
  if i.contains nearest e then some nearest
  else if i.contains c e then some c
  else if i.contains (c + 1) e then some (c + 1)
  else none

/-- The decimal `c * 10 ^ e` with the fewest digits that reads back as `x`. -/
def shortest (x : Binary64) : Nat × Int :=
  let i := x.interval
  let m := magnitude i.centre i.denominator
  ((List.range 17).findSome? fun n =>
    let e := m - (n + 1 : Nat)
    (i.onGrid e).map fun c => (c, e)).getD (0, 0)

end Binary64

end ContentBlocking
