import SheetGrammar.Decimal.Shortest

/-!
# Decimals as text

Two ways of writing a decimal, with and without a power of ten, and the reading
of a decimal as the nearest float.

## Main definitions

* `Decimal.plain` — digits and a point, never a power of ten.
* `Decimal.compact` — the form of documents: a power of ten for large and small numbers.
* `Decimal.parse?`, `Decimal.toFloat`, `readFloat?` — reading.
-/

namespace SheetGrammar

/-- The value of a decimal digit. -/
def digitValue (c : Char) : Nat := c.toNat - '0'.toNat

/-- The number that a text of decimal digits stands for. -/
def digitsValue (cs : List Char) : Nat :=
  cs.foldl (fun acc c => 10 * acc + digitValue c) 0

namespace Decimal

/-- The sign in front of the digits. -/
def signText (d : Decimal) : List Char := if d.negative then ['-'] else []

/-- The digits of the number, without its power of ten. -/
def digitText (d : Decimal) : List Char := Nat.toDigits 10 d.digits

/-- How many digits stand before the point; zero or negative for fractions below 1/10. -/
def pointPlace (d : Decimal) : Int := (digitText d).length + d.exponent

/-- The digits with the point at its place and zeros filled in. A number
without a fraction has no point. -/
def positional (d : Decimal) : List Char :=
  let ds := d.digitText
  let place := d.pointPlace
  if 0 ≤ d.exponent then ds ++ List.replicate d.exponent.toNat '0'
  else if 0 < place then ds.take place.toNat ++ '.' :: ds.drop place.toNat
  else '0' :: '.' :: (List.replicate (-place).toNat '0' ++ ds)

/-- The number written with digits and a point alone. -/
def plain (d : Decimal) : List Char := d.signText ++ d.positional

/-- How a power of ten is marked when it is not negative. -/
inductive PowerSign
  /-- It has no sign, as in `1e16`. -/
  | bare
  /-- It has a plus sign, as in `1e+16`. -/
  | plus
  deriving DecidableEq, Repr

/-- A power of ten behind the digits of a number. -/
def powerText (sign : PowerSign) (n : Int) : List Char :=
  'e' :: (if 0 ≤ n ∧ sign = .plus then ['+'] else []) ++ (toString n).toList

/-- The digits with a point behind the first and a power of ten. -/
def scientific (sign : PowerSign) (d : Decimal) : List Char :=
  let fraction := d.digitText.drop 1
  d.digitText.take 1 ++ (if fraction = [] then [] else '.' :: fraction)
    ++ powerText sign (d.pointPlace - 1)

/-- The number as documents hold it: a power of ten from `10 ^ 16` on and below
`10 ^ -5`, and else a point, which a whole number has with a zero behind it. -/
def compact (sign : PowerSign) (d : Decimal) : List Char :=
  d.signText ++
    if d.digits = 0 then ['0', '.', '0']
    else if -5 < d.pointPlace ∧ d.pointPlace ≤ 16 then
      d.positional ++ (if 0 ≤ d.exponent then ['.', '0'] else [])
    else d.scientific sign

/-! ### Reading -/

/-- Positive infinity. -/
def infinity : Float := Float.ofBits 0x7FF0000000000000

/-- The number that is none. -/
def notANumber : Float := Float.ofBits 0x7FF8000000000000

/-- The float nearest to a decimal. Far outside the range of floats the result
is infinite or zero, whatever the digits. -/
def toFloat (d : Decimal) : Float :=
  let size := digitCount d.digits + d.exponent
  let magnitude :=
    if d.digits = 0 ∨ size < -400 then 0
    else if 400 < size then infinity
    else Float.ofScientific d.digits (d.exponent < 0) d.exponent.natAbs
  if d.negative then -magnitude else magnitude

/-- An optional sign in front of a text: whether it is a minus, and the text behind it. -/
def takeSign : List Char → Bool × List Char
  | '-' :: cs => (true, cs)
  | '+' :: cs => (false, cs)
  | cs => (false, cs)

/-- The power of ten at the end of a number, from the letter `e` on. -/
def parseExponent? : List Char → Option Int
  | [] => some 0
  | c :: cs =>
    if c = 'e' ∨ c = 'E' then
      let (negative, ds) := takeSign cs
      if ds ≠ [] ∧ ds.all Char.isDigit then
        some (if negative then -(digitsValue ds : Int) else digitsValue ds)
      else none
    else none

/-- Reads an unsigned number: digits with at most one point among or around
them, and optionally a power of ten. -/
def parseMagnitude? (negative : Bool) (cs : List Char) : Option Decimal :=
  let whole := cs.takeWhile Char.isDigit
  let rest := cs.dropWhile Char.isDigit
  let (fraction, rest) := match rest with
    | '.' :: rest => (rest.takeWhile Char.isDigit, rest.dropWhile Char.isDigit)
    | rest => ([], rest)
  if whole = [] ∧ fraction = [] then none
  else (parseExponent? rest).map fun e =>
    ⟨negative, digitsValue (whole ++ fraction), e - fraction.length⟩

/-- Reads a number with an optional sign. -/
def parse? (cs : List Char) : Option Decimal :=
  let (negative, cs) := takeSign cs
  parseMagnitude? negative cs

end Decimal

/-- Reads a float: a number with an optional sign, or one of the words `inf`,
`infinity` and `nan` in any case. -/
def readFloat? (cs : List Char) : Option Float :=
  let (negative, rest) := Decimal.takeSign cs
  let word := String.ofList (rest.map Char.toLower)
  if word = "inf" ∨ word = "infinity" then
    some (if negative then -Decimal.infinity else Decimal.infinity)
  else if word = "nan" then some Decimal.notANumber
  else (Decimal.parse? cs).map Decimal.toFloat

end SheetGrammar
