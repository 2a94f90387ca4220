import SheetGrammar.Json.Basic
import SheetGrammar.Decimal.Text
import SheetGrammar.Word

/-!
# Numbers of JSON texts

A number without point and exponent is an integer if it fits into 64 bits.  Any
other number is a float: its leading digits, as many as fit into 64 bits, times a
power of ten, in one multiplication or division of floats.

## Main definitions

* `Json.scaled` — a significand times a power of ten.
* `Json.readNumber?` — reads a number at the start of a text.
-/

namespace SheetGrammar.Json

/-- The largest number of 64 bits. -/
def maxWord : Nat := wordSize 64 - 1

/-- Takes digits into a significand for as long as it fits into 64 bits. -/
def absorb : Nat → List Char → Nat × List Char
  | acc, [] => (acc, [])
  | acc, c :: cs =>
    let next := 10 * acc + digitValue c
    if next ≤ maxWord then absorb next cs else (acc, c :: cs)

/-- The power `10 ^ n` as a float. -/
def floatPow10 (n : Nat) : Float := Float.ofScientific 1 false n

/-- A float times `10 ^ e`, if that is finite. A large negative exponent is taken
in steps. -/
def scaleFloat? : Nat → Float → Int → Option Float
  | 0, f, _ => some f
  | fuel + 1, f, e =>
    if e.natAbs ≤ 308 then
      if 0 ≤ e then
        let g := f * floatPow10 e.natAbs
        if g == Decimal.infinity then none else some g
      else some (f / floatPow10 e.natAbs)
    else if f == 0 then some f
    else if 0 ≤ e then none
    else scaleFloat? fuel (f / floatPow10 308) (e + 308)

/-- A significand times `10 ^ e`, with a sign. -/
def scaled (negative : Bool) (significand : Nat) (e : Int) : Json :=
  match scaleFloat? 8 significand.toUInt64.toFloat e with
  | some f => .float (if negative then -f else f)
  | none => .unreadable

/-- The largest exponent that is told from larger ones. -/
def maxExponent : Nat := wordSize 31 - 1

/-- Reads the power of ten of a number, behind the letter, and ends the number. -/
def readPower? (negative : Bool) (significand : Nat) (start : Int) (cs : List Char) :
    Option (Json × List Char) :=
  let (down, ds) := Decimal.takeSign cs
  let digits := ds.takeWhile Char.isDigit
  let rest := ds.dropWhile Char.isDigit
  let e := digitsValue digits
  if digits = [] then none
  else if maxExponent < e then
    if significand ≠ 0 ∧ !down then some (.unreadable, rest)
    else some (.float (if negative then -0.0 else 0.0), rest)
  else some (scaled negative significand (if down then start - e else start + e), rest)

/-- The number of an integer's text: an integer, or a float for minus zero and
for what does not fit. -/
def wholeNumber (negative : Bool) (significand : Nat) : Json :=
  if negative then
    if 0 < significand ∧ significand ≤ wordSize 63 then .integer (-(significand : Int))
    else .float (-significand.toUInt64.toFloat)
  else .integer significand

/-- Reads what follows the digits before the point. -/
def readTail? (negative : Bool) (significand : Nat) (dropped : Nat) :
    List Char → Option (Json × List Char)
  | '.' :: cs =>
    let fraction := cs.takeWhile Char.isDigit
    let rest := cs.dropWhile Char.isDigit
    let (significand, unused) := absorb significand fraction
    let e : Int := (dropped : Int) - (fraction.length - unused.length : Nat)
    if fraction = [] then none
    else match rest with
      | c :: behind =>
        if c = 'e' ∨ c = 'E' then readPower? negative significand e behind
        else some (scaled negative significand e, rest)
      | [] => some (scaled negative significand e, [])
  | cs =>
    match cs with
    | c :: behind =>
      if c = 'e' ∨ c = 'E' then readPower? negative significand dropped behind
      else if dropped = 0 then some (wholeNumber negative significand, cs)
      else some (scaled negative significand dropped, cs)
    | [] =>
      if dropped = 0 then some (wholeNumber negative significand, [])
      else some (scaled negative significand dropped, [])

/-- Reads an unsigned number; zeros do not lead. -/
def readUnsigned? (negative : Bool) (cs : List Char) : Option (Json × List Char) :=
  let whole := cs.takeWhile Char.isDigit
  let rest := cs.dropWhile Char.isDigit
  let (significand, unused) := absorb 0 whole
  if whole = [] then none
  else if whole.head? = some '0' ∧ 1 < whole.length then none
  else readTail? negative significand unused.length rest

/-- Reads a number at the start of a text. -/
def readNumber? : List Char → Option (Json × List Char)
  | '-' :: cs => readUnsigned? true cs
  | cs => readUnsigned? false cs

end SheetGrammar.Json
