import VlanBinding.Decimal.Power

/-!
Binary floating point numbers of 64 bits as exact data: a mantissa of 53 bits times a power of
two. Every operation is the exact result rounded once, to the nearest number and to an even
mantissa on a tie.
-/

namespace VlanBinding.Decimal

/-- The finite number `mantissa * 2 ^ exponent`, negated if `negative`. Zero has a sign, too. -/
structure Binary64 where
  negative : Bool
  mantissa : Nat
  exponent : Int
deriving DecidableEq, Repr, Inhabited

namespace Binary64

def leastExponent : Int := -1074
def greatestExponent : Int := 971

/-- The positive number nearest to `num / den`, or `none` past the greatest number. -/
def nearest? (num den : Nat) : Option (Nat × Int) :=
  if num = 0 then some (0, leastExponent)
  else
    let guess : Int := (num.log2 : Int) - den.log2 - 52
    let small : Bool :=
      if 0 ≤ guess then num < twoTo 52 * twoTo guess.toNat * den
      else num * twoTo (-guess).toNat < twoTo 52 * den
    let exponent := max leastExponent (if small then guess - 1 else guess)
    let upper := if 0 ≤ exponent then num else num * twoTo (-exponent).toNat
    let lower := if 0 ≤ exponent then den * twoTo exponent.toNat else den
    let floor := upper / lower
    let rest := upper % lower
    let mantissa :=
      if lower < 2 * rest ∨ (2 * rest = lower ∧ floor % 2 = 1) then floor + 1 else floor
    let (mantissa, exponent) :=
      if mantissa = twoTo 53 then (twoTo 52, exponent + 1) else (mantissa, exponent)
    if greatestExponent < exponent then none else some (mantissa, exponent)

/-- The number nearest to `num / den`. -/
def ofRatio? (negative : Bool) (num den : Nat) : Option Binary64 :=
  (nearest? num den).map fun (m, e) => ⟨negative, m, e⟩

def ofNat? (n : Nat) : Option Binary64 := ofRatio? false n 1

/-- The absolute value as a fraction. -/
def ratio (x : Binary64) : Nat × Nat :=
  if 0 ≤ x.exponent then (x.mantissa * twoTo x.exponent.toNat, 1)
  else (x.mantissa, twoTo (-x.exponent).toNat)

def mul? (x y : Binary64) : Option Binary64 :=
  ofRatio? (x.negative != y.negative) (x.ratio.1 * y.ratio.1) (x.ratio.2 * y.ratio.2)

def div? (x y : Binary64) : Option Binary64 :=
  ofRatio? (x.negative != y.negative) (x.ratio.1 * y.ratio.2) (x.ratio.2 * y.ratio.1)

def neg (x : Binary64) : Binary64 := { x with negative := !x.negative }

def isZero (x : Binary64) : Bool := x.mantissa == 0

/-- The number nearest to `significand * 10 ^ exponent`. -/
def ofDecimal? (negative : Bool) (significand : Nat) (exponent : Int) : Option Binary64 :=
  if 0 ≤ exponent then ofRatio? negative (significand * tenTo exponent.toNat) 1
  else ofRatio? negative significand (tenTo (-exponent).toNat)

example : ofRatio? false 1 10 = some ⟨false, 7205759403792794, -56⟩ := by decide +kernel
example : (ofNat? (twoTo 53 + 1)).map ratio = some (twoTo 53, 1) := by decide +kernel
example : (ofNat? (twoTo 53 + 3)).map ratio = some (twoTo 53 + 4, 1) := by decide +kernel
example : ofDecimal? false 1 309 = none := by decide +kernel

end Binary64

end VlanBinding.Decimal
