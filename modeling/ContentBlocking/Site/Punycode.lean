import ContentBlocking.Json.Numeral

/-!
# Punycode

A label with characters beyond ASCII is written in ASCII as its ASCII characters followed by the
places at which the others are inserted, in a number system of variable length.
-/

namespace ContentBlocking.Punycode

/-- The first character beyond ASCII. -/
def firstCode : Nat := 0x80

/-- The letter or digit of a number below 36. -/
def digitChar (n : Nat) : Char :=
  Char.ofNat (if n < 26 then 97 + n else 22 + n)

/-- The number of a letter or digit. -/
def digit? (c : Char) : Option Nat :=
  if 'a' ≤ c ∧ c ≤ 'z' then some (c.toNat - 97)
  else if 'A' ≤ c ∧ c ≤ 'Z' then some (c.toNat - 65)
  else if '0' ≤ c ∧ c ≤ '9' then some (c.toNat - 22)
  else none

/-- The bias of a difference that is divided until it is small; each division counts for `36`. -/
def shrink (delta k : Nat) : Nat :=
  if 455 < delta then shrink (delta / 35) (k + 36) else k + 36 * delta / (delta + 38)
termination_by delta

/-- The bias after a difference, by which the digits of the next one are weighed. -/
def adapt (delta points : Nat) (first : Bool) : Nat :=
  let delta := if first then delta / 700 else delta / 2
  shrink (delta + delta / points) 0

/-- The threshold of the digit at place `k`. -/
def threshold (k bias : Nat) : Nat :=
  if k ≤ bias then 1 else min (k - bias) 26

theorem threshold_pos (k bias : Nat) : 0 < threshold k bias := by
  unfold threshold
  split <;> omega

/-- The digits of a difference from the place `k` on. -/
def encodeDelta (q k bias : Nat) : List Char :=
  let t := threshold k bias
  if q < t then [digitChar q]
  else digitChar (t + (q - t) % (36 - t)) :: encodeDelta ((q - t) / (36 - t)) (k + 36) bias
termination_by q
decreasing_by
  have := threshold_pos k bias
  exact Nat.lt_of_le_of_lt (Nat.div_le_self _ _) (by omega)

/-- What the encoder has reached. -/
structure Progress where
  delta : Nat
  bias : Nat
  handled : Nat
  output : List Char

/-- One pass over the label for the characters with the code `n`; `basic` characters came first. -/
def encodePass (n basic : Nat) (p : Progress) (c : Char) : Progress :=
  if c.toNat < n then { p with delta := p.delta + 1 }
  else if c.toNat = n then
    { delta := 0
      bias := adapt p.delta (p.handled + 1) (p.handled = basic)
      handled := p.handled + 1
      output := p.output ++ encodeDelta p.delta 36 p.bias }
  else p

/-- The passes for the codes of a label in ascending order, from the code `n` on. -/
def encodePasses (label : List Char) (basic : Nat) : Nat → Progress → List Nat → Progress
  | _, p, [] => p
  | n, p, m :: codes =>
    let p := { p with delta := p.delta + (m - n) * (p.handled + 1) }
    let p := label.foldl (encodePass m basic) p
    encodePasses label basic (m + 1) { p with delta := p.delta + 1 } codes

/-- A label in ASCII, without a mark that it is encoded. -/
def encode (label : List Char) : List Char :=
  let basic := label.filter fun c => c.toNat < firstCode
  let codes := ((label.map Char.toNat).filter (firstCode ≤ ·)).mergeSort.eraseDups
  let front := if basic = [] then [] else basic ++ ['-']
  front ++ (encodePasses label basic.length firstCode ⟨0, 72, basic.length, []⟩ codes).output

/-- Differences and the weights of their digits are below this. -/
def limit : Nat := 0x100000000

/-- The difference at the start of a text, and what follows it; `w` is the weight of place `k`. -/
def decodeDelta? (bias : Nat) : List Char → Nat → Nat → Nat → Option (Nat × List Char)
  | [], _, _, _ => none
  | c :: cs, i, w, k => do
    let d ← digit? c
    let i := i + d * w
    let t := threshold k bias
    if limit ≤ i then none
    else if d < t then some (i, cs)
    else if limit ≤ w * (36 - t) then none
    else decodeDelta? bias cs i (w * (36 - t)) (k + 36)

theorem length_lt_of_decodeDelta? {bias : Nat} {cs rest : List Char} {i w k next : Nat}
    (h : decodeDelta? bias cs i w k = some (next, rest)) : rest.length < cs.length := by
  induction cs generalizing i w k with
  | nil => simp [decodeDelta?] at h
  | cons c cs ih =>
    simp only [decodeDelta?, Option.bind_eq_bind, Option.bind_eq_some_iff] at h
    obtain ⟨d, -, h⟩ := h
    split at h
    · cases h
    · split at h
      · simp only [Option.some.injEq, Prod.mk.injEq] at h
        simp [h.2]
      · split at h
        · cases h
        · exact Nat.lt_succ_of_lt (ih h)

/-- The label of the characters so far and the differences that follow. -/
def decodeFrom? (label : List Char) (n i bias : Nat) (rest : List Char) : Option (List Char) :=
  if rest = [] then some label else
  match _h : decodeDelta? bias rest i 1 36 with
  | none => none
  | some (next, after) =>
    let points := label.length + 1
    let n := n + next / points
    let place := next % points
    if n.isValidChar then
      decodeFrom? (label.take place ++ Char.ofNat n :: label.drop place) n (place + 1)
        (adapt (next - i) points (i = 0)) after
    else none
termination_by rest.length
decreasing_by exact length_lt_of_decodeDelta? _h

/-- The label that a text in ASCII writes: its ASCII characters end before the last hyphen, and a
hyphen with none before it is no digit. -/
def decode? (cs : List Char) : Option (List Char) :=
  let back := cs.reverse.takeWhile (· != '-')
  match cs.reverse.dropWhile (· != '-') with
  | [] => decodeFrom? [] firstCode 0 72 cs
  | _ :: front =>
    if front ≠ [] ∧ front.all fun c => c.toNat < firstCode then
      decodeFrom? front.reverse firstCode 0 72 back.reverse
    else none

end ContentBlocking.Punycode
