/-!
Decimal literals as floating-point numbers, by scaling.

* `Decimal.absorb`: the digits that a significand of 64 bits has room for;
* `Decimal.scale?`: a number times a power of ten, which is itself rounded;
* `Decimal.float?`: the number that the parts of a literal stand for.

The significand and the power of ten are each rounded before they meet, so a
literal with many digits or a large power can stand for a neighbour of the
number that is nearest to it.
-/

namespace Discovery.Decimal

/-! ### Significands -/

/-- The value of a digit. -/
def digitValue (c : Char) : Nat := c.toNat - '0'.toNat

/-- A significand with digits put behind it, up to the first that would take
it beyond 64 bits, and the number of digits that were put there. -/
def absorb (significand : Nat) : List Char → Nat × Nat
  | [] => (significand, 0)
  | c :: rest =>
      let longer := significand * 10 + digitValue c
      if longer < UInt64.size then
        let (filled, count) := absorb longer rest
        (filled, count + 1)
      else (significand, 0)

/-! ### Scaling -/

/-- The largest power of ten that has a floating-point number. -/
abbrev largestPower : Nat := 308

/-- The floating-point number nearest to a power of ten. -/
def powerOfTen (power : Nat) : Float := Float.ofScientific 1 false power

/-- A number times a power of ten, unless that is out of range. -/
def scaleUp? (x : Float) (power : Nat) : Option Float :=
  if power ≤ largestPower then
    let y := x * powerOfTen power
    if y.isFinite then some y else none
  else if x == 0.0 then some x else none

/-- A number divided by a power of ten, in steps of the largest one. -/
def scaleDown (x : Float) (power : Nat) : Float :=
  if power ≤ largestPower then x / powerOfTen power
  else if x == 0.0 then x
  else scaleDown (x / powerOfTen largestPower) (power - largestPower)
termination_by power
decreasing_by simp only [largestPower] at *; omega

/-- A number times a power of ten with an exponent of either sign. -/
def scale? (x : Float) : Int → Option Float
  | .ofNat power => scaleUp? x power
  | .negSucc power => some (scaleDown x (power + 1))

/-! ### Literals -/

/-- The number that a literal stands for, by the digits before its point, those
behind it, and its exponent, unless it is out of range. Digits that the
significand has no room for count as zeros before the point, and not at all
behind it. -/
def float? (whole fraction : List Char) (exponent : Int) : Option Float :=
  let (significand, kept) := absorb 0 whole
  let dropped := whole.length - kept
  let (significand, places) := absorb significand fraction
  scale? (Float.ofScientific significand false 0) (exponent + dropped - places)

end Discovery.Decimal
