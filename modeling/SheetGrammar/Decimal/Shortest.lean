import SheetGrammar.Word

/-!
# Shortest decimals

The decimal with the fewest digits that reads back as a given float.  A finite
float is `m · 2 ^ q`; the reals that round to it form an interval, whose ends
belong to it exactly when `m` is even.  For one digit, two digits and so on the
two neighbours of the float on that decimal grid are tested for membership, in
exact arithmetic; the first grid with a hit gives the digits.

## Main definitions

* `Decimal` — a sign, a whole number of digits and a power of ten.
* `FloatParts`, `FloatParts.ofFloat?` — a finite float as `± m · 2 ^ q`.
* `Tie` — which of two equally near decimals is taken.
* `Decimal.shortest` — the shortest decimal of a finite float.
-/

namespace SheetGrammar

/-- The number `± digits · 10 ^ exponent`. -/
structure Decimal where
  negative : Bool
  digits : Nat
  exponent : Int
  deriving DecidableEq, Repr, Inhabited

/-- A finite float, as `± mantissa · 2 ^ exponent`. -/
structure FloatParts where
  negative : Bool
  mantissa : Nat
  exponent : Int
  deriving DecidableEq, Repr, Inhabited

namespace FloatParts

/-- The parts of a finite float; `none` for infinities and for what is not a number. -/
def ofFloat? (x : Float) : Option FloatParts :=
  let bits : Nat := x.toBits.toNat
  let negative := wordSize 63 ≤ bits
  let biased : Nat := bits / wordSize 52 % wordSize 11
  let fraction : Nat := bits % wordSize 52
  if biased = 2047 then none
  else if biased = 0 then some ⟨negative, fraction, -1074⟩
  else some ⟨negative, fraction + wordSize 52, biased - 1075⟩

/-- Whether the next smaller float is only half as far away as the next larger one. -/
def atPowerOfTwo (p : FloatParts) : Bool :=
  p.mantissa = wordSize 52 ∧ -1074 < p.exponent

end FloatParts

/-- Which of two neighbours is taken when both are equally near. -/
inductive Tie
  /-- The one whose last digit is even. -/
  | toEven
  /-- The larger one. -/
  | up
  deriving DecidableEq, Repr

/-- A positive float as a fraction with its interval of rounding: the value is
`value / unit`, the interval reaches from `low / unit` to `high / unit`, and
`closed` says whether its ends belong to it. -/
structure RoundingInterval where
  unit : Nat
  value : Nat
  low : Nat
  high : Nat
  closed : Bool
  deriving Repr

namespace RoundingInterval

/-- The interval of the reals that round to the float. -/
def ofParts (p : FloatParts) : RoundingInterval :=
  let scale := Nat.pow 2 p.exponent.toNat
  let unit := 4 * Nat.pow 2 (-p.exponent).toNat
  let below := if p.atPowerOfTwo then 1 else 2
  { unit
    value := 4 * p.mantissa * scale
    low := (4 * p.mantissa - below) * scale
    high := (4 * p.mantissa + 2) * scale
    closed := p.mantissa % 2 = 0 }

/-- Whether `n / d` lies in the interval. -/
def holds (i : RoundingInterval) (n d : Nat) : Bool :=
  let x := n * i.unit
  if i.closed then i.low * d ≤ x ∧ x ≤ i.high * d else i.low * d < x ∧ x < i.high * d

/-- The power of ten, as a fraction. -/
def pow10 (e : Int) : Nat × Nat := (Nat.pow 10 e.toNat, Nat.pow 10 (-e).toNat)

/-- The nearer neighbour of the value among the multiples of `10 ^ e` that lie
in the interval. -/
def nearest? (tie : Tie) (i : RoundingInterval) (e : Int) : Option Nat :=
  let (num, den) := pow10 e
  -- the value is `quotient + remainder / divisor` in units of `10 ^ e`
  let dividend := i.value * den
  let divisor := i.unit * num
  let below := dividend / divisor
  let remainder := dividend % divisor
  let lowHit := i.holds (below * num) den
  let highHit := i.holds ((below + 1) * num) den
  if lowHit && highHit then
    if 2 * remainder < divisor then some below
    else if divisor < 2 * remainder then some (below + 1)
    else match tie with
      | .toEven => some (if below % 2 = 0 then below else below + 1)
      | .up => some (below + 1)
  else if lowHit then some below
  else if highHit then some (below + 1)
  else none

/-- The first hit on the grids `10 ^ e`, `10 ^ (e - 1)`, … . -/
def search (tie : Tie) (i : RoundingInterval) : Nat → Int → Nat × Int
  | 0, e => (i.value / i.unit, e)
  | fuel + 1, e =>
    match i.nearest? tie e with
    | some d => (d, e)
    | none => search tie i fuel (e - 1)

end RoundingInterval

namespace Decimal

/-- Takes trailing zeros of the digits into the exponent. -/
def strip : Nat → Nat → Int → Nat × Int
  | 0, d, e => (d, e)
  | fuel + 1, d, e => if d ≠ 0 ∧ d % 10 = 0 then strip fuel (d / 10) (e + 1) else (d, e)

/-- How many decimal digits a number has; zero has one. -/
def digitCount (n : Nat) : Nat := (Nat.toDigits 10 n).length

/-- The place of the leading digit of `n / d`, or the place above it. -/
def leadingPlace (n d : Nat) : Int :=
  (digitCount n : Int) - digitCount d

/-- The shortest decimal that reads back as the finite float with these parts. -/
def shortest (tie : Tie) (p : FloatParts) : Decimal :=
  if p.mantissa = 0 then ⟨p.negative, 0, 0⟩
  else
    let i := RoundingInterval.ofParts p
    let (d, e) := i.search tie 20 (leadingPlace i.value i.unit)
    let (d, e) := strip 20 d e
    ⟨p.negative, d, e⟩

end Decimal

end SheetGrammar
