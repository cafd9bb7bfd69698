import VlanBinding.Decimal.Binary64

/-!
The fewest decimal digits that read back as a given binary number, and two ways to set them:
positional throughout, or positional near one and with an exponent elsewhere.
-/

namespace VlanBinding.Decimal

/-- The interval of reals that round to a number: both ends as numerators over one denominator,
and whether the ends belong to it. -/
structure Interval where
  low : Nat
  value : Nat
  high : Nat
  denominator : Nat
  closed : Bool
deriving Repr

namespace Binary64

/-- The reals that round to `x`. Below a power of two the gap is half as wide. -/
def interval (x : Binary64) : Interval :=
  let q := x.exponent - 2
  let scale := if 0 ≤ q then twoTo q.toNat else 1
  let below := if x.mantissa = twoTo 52 ∧ leastExponent < x.exponent then 1 else 2
  { low := (4 * x.mantissa - below) * scale
    value := 4 * x.mantissa * scale
    high := (4 * x.mantissa + 2) * scale
    denominator := if 0 ≤ q then 1 else twoTo (-q).toNat
    closed := x.mantissa % 2 = 0 }

end Binary64

namespace Interval

/-- Does `num / den` round to the number? -/
def holds (i : Interval) (num den : Nat) : Bool :=
  let scaled := num * i.denominator
  if i.closed then i.low * den ≤ scaled && scaled ≤ i.high * den
  else i.low * den < scaled && scaled < i.high * den

/-- Of the two neighbours of the value on the grid of multiples of `10 ^ k` the nearer one that
rounds to the number; an even digit wins a tie. -/
def onGrid? (i : Interval) (k : Int) : Option Nat :=
  let num := if 0 ≤ k then i.value else i.value * tenTo (-k).toNat
  let den := if 0 ≤ k then i.denominator * tenTo k.toNat else i.denominator
  let up := if 0 ≤ k then tenTo k.toNat else 1
  let down := if 0 ≤ k then 1 else tenTo (-k).toNat
  let floor := num / den
  let rest := num % den
  let low := i.holds (floor * up) down
  let high := i.holds ((floor + 1) * up) down
  if low && high then
    if 2 * rest < den || (2 * rest == den && floor % 2 == 0) then some floor
    else some (floor + 1)
  else if low then some floor
  else if high then some (floor + 1)
  else none

/-- The first grid with a hit, going from `10 ^ k` to finer ones. -/
def search (i : Interval) : Nat → Int → Nat × Int
  | 0, k => (i.value / i.denominator, k)
  | steps + 1, k =>
    match i.onGrid? k with
    | some digits => (digits, k)
    | none => i.search steps (k - 1)

end Interval

/-- Drops the zeros at the end of a number and counts them in the exponent. -/
def dropZeros : Nat → Nat → Int → Nat × Int
  | 0, n, k => (n, k)
  | steps + 1, n, k => if n % 10 = 0 ∧ n ≠ 0 then dropZeros steps (n / 10) (k + 1) else (n, k)

namespace Binary64

/-- The shortest decimal `digits * 10 ^ k` that reads back as `x`, of those the nearest. -/
def shortest (x : Binary64) : Nat × Int :=
  if x.mantissa = 0 then (0, 0)
  else
    let i := x.interval
    let magnitude : Int := ((i.value.log2 : Int) - i.denominator.log2) * 30103 / 100000 + 2
    let (digits, k) := i.search 22 magnitude
    dropZeros 20 digits k

def sign (x : Binary64) : List Char := if x.negative then ['-'] else []

/-- Digits with the point after the first `point` of them, and no exponent. -/
def positional (digits : List Char) (point : Int) : List Char :=
  if (digits.length : Int) ≤ point then
    digits ++ List.replicate (point - digits.length).toNat '0' ++ ['.', '0']
  else if 0 < point then
    digits.take point.toNat ++ '.' :: digits.drop point.toNat
  else ['0', '.'] ++ List.replicate (-point).toNat '0' ++ digits

/-- The number without an exponent, and with at least one digit after the point. -/
def toPositional (x : Binary64) : List Char :=
  let (n, k) := x.shortest
  let digits := Nat.toDigits 10 n
  x.sign ++ positional digits (digits.length + k)

/-- The number without an exponent from `10 ^ -5` up to `10 ^ 16`, and with one digit before the
point and a signed exponent elsewhere. -/
def toScientific (x : Binary64) : List Char :=
  let (n, k) := x.shortest
  let digits := Nat.toDigits 10 n
  let point := digits.length + k
  if -5 < point ∧ point ≤ 16 then x.sign ++ positional digits point
  else
    let exponent := point - 1
    let mark := if exponent < 0 then ['e', '-'] else ['e', '+']
    let fraction := if digits.length = 1 then [] else '.' :: digits.drop 1
    x.sign ++ digits.take 1 ++ fraction ++ mark ++ Nat.toDigits 10 exponent.natAbs

end Binary64

end VlanBinding.Decimal
