/-!
The shortest decimal text of a binary floating-point number.

* `Binary.ofFloat`: the significand and the exponent of a finite number;
* `Binary.shortest`: the fewest digits that round to the number, and of those
  the nearest, as digits and a power of ten; a tie goes to the even last digit;
* `Decimal.render`: those digits written out, by the rule for where a text
  stops being positional.

A number stands for all reals that round to it: those up to half way to its
neighbours, the ends included when its significand is even. Everything is
compared in integers, in quarter units of the last place.
-/

namespace Discovery.Decimal

/-- The number `significand * 2 ^ (exponent - 1074)`. -/
structure Binary where
  significand : Nat
  exponent : Nat
  deriving DecidableEq, Repr

namespace Binary

/-- The least significand of a number with all its digits, `2 ^ 52`. -/
def leadingDigit : Nat := 4503599627370496

/-- The magnitude of a finite floating-point number. -/
def ofFloat (x : Float) : Binary :=
  let bits := x.toBits.toNat
  let stored := bits % leadingDigit
  let biased := bits / leadingDigit % 2048
  if biased = 0 then ⟨stored, 0⟩ else ⟨leadingDigit + stored, biased - 1⟩

/-- The number in units of `2 ^ (-1076)`, quarters of the finest last
place. -/
def quarters (b : Binary) : Nat := 4 * b.significand * Nat.pow 2 b.exponent

/-- Half way to the neighbour above. -/
def upper (b : Binary) : Nat := (4 * b.significand + 2) * Nat.pow 2 b.exponent

/-- Half way to the neighbour below, which is nearer under a power of two. -/
def lower (b : Binary) : Nat :=
  if b.significand = leadingDigit ∧ 0 < b.exponent then
    (4 * b.significand - 1) * Nat.pow 2 b.exponent
  else (4 * b.significand - 2) * Nat.pow 2 b.exponent

/-- Whether `num / den` quarters round to the number. -/
def contains (b : Binary) (num den : Nat) : Bool :=
  if b.significand % 2 = 0 then
    b.lower * den ≤ num && num ≤ b.upper * den
  else b.lower * den < num && num < b.upper * den

/-- The multiple of `10 ^ (place - 400)` that rounds to the number and is
nearest to it, if there is one; of two that are equally near, the one with an
even last digit. Only the two multiples around the number need to be tried. -/
def onGrid? (b : Binary) (place : Nat) : Option Nat :=
  let step := Nat.pow 10 (place - 400) * Nat.pow 2 1076
  let den := Nat.pow 10 (400 - place)
  let below := b.quarters * den / step
  let above := below + 1
  match b.contains (below * step) den, b.contains (above * step) den with
  | true, true =>
      let up := b.quarters * den - below * step
      let down := above * step - b.quarters * den
      if up < down ∨ (up = down ∧ below % 2 = 0) then some below else some above
  | true, false => some below
  | false, true => some above
  | false, false => none

/-- The digits on the coarsest of the grids from `place` down that has a hit,
and the power of ten of their last place. -/
def shortestFrom (b : Binary) : Nat → Nat × Int
  | 0 => (0, 0)
  | place + 1 =>
      match b.onGrid? place with
      | some digits => (digits, (place : Int) - 400)
      | none => b.shortestFrom place

/-- The fewest digits that round to the number, and the power of ten of the
last of them. -/
def shortest (b : Binary) : Nat × Int :=
  if b.significand = 0 then (0, 0) else b.shortestFrom 720

end Binary

/-! ### Writing the digits out -/

/-- How floating-point numbers are written: positionally while the power of
ten of the first digit is in `[leastPower, powerLimit)`, in which case there is
always a fraction, and with an exponent otherwise. -/
structure Layout where
  leastPower : Int
  powerLimit : Int

/-- The digits of a number whose last digit has a given power of ten, laid
out. -/
def Layout.write (layout : Layout) (number : Nat) (power : Int) : String :=
  let digits := Nat.toDigits 10 number
  let first := power + digits.length - 1
  if layout.leastPower ≤ first ∧ first < layout.powerLimit then
    if 0 ≤ power then
      String.ofList (digits ++ List.replicate power.toNat '0') ++ ".0"
    else if 0 ≤ first then
      String.ofList (digits.take (first.toNat + 1)) ++ "." ++
        String.ofList (digits.drop (first.toNat + 1))
    else
      "0." ++ String.ofList (List.replicate (-first - 1).toNat '0' ++ digits)
  else
    let tail := digits.drop 1
    String.ofList (digits.take 1) ++
      (if tail.isEmpty then "" else "." ++ String.ofList tail) ++
      (if first < 0 then "e-" else "e+") ++ toString first.natAbs

/-- Numbers are positional from a hundred-thousandth to ten to the sixteenth. -/
def layout : Layout := ⟨-5, 16⟩

/-- The shortest text of a finite floating-point number; the first of its bits
is its sign. -/
def render (x : Float) : String :=
  let (digits, power) := (Binary.ofFloat x).shortest
  (if 9223372036854775808 ≤ x.toBits.toNat then "-" else "") ++
    layout.write digits power

end Discovery.Decimal
