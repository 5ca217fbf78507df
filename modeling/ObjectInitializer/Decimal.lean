/-
**Decimal numerals and binary64.**

A decimal numeral is an optional sign and either digits, with an optional point among or around
them and an optional exponent, or one of the words for infinity and for no number.  Its value is
rounded to the nearest number of the format binary64, a tie to the even one.

The numbers of the format that are not negative are the natural multiples of the least positive
one, `2 ^ -1074`, with at most 53 significant bits; they are represented by these multiples, so
that all arithmetic is exact and on natural numbers.

Main definitions:

* `Decimal`, `Numeral` — a signed decimal number, and what a numeral stands for;
* `Numeral.read?` — the numeral that a text is;
* `Decimal.roundQuotient`, `Decimal.roundBits` — rounding to an integer and to 53 bits;
* `Decimal.toBinary64?` — the nearest number of the format, if it does not overflow.
-/

set_option relaxedAutoImplicit false
set_option autoImplicit false

namespace ObjectInitializer

/-! ### Numerals -/

/-- The number `coefficient * 10 ^ exponent`, with a sign. -/
structure Decimal where
  negative : Bool
  coefficient : Nat
  exponent : Int
  deriving Repr, DecidableEq

/-- What a numeral stands for. -/
inductive Numeral where
  | finite (value : Decimal)
  | infinite (negative : Bool)
  | nan
  deriving Repr, DecidableEq

namespace Numeral

/-- The value of a list of digits, read behind digits of the value `n`. -/
def digitsValue (n : Nat) (digits : List Char) : Nat :=
  digits.foldl (fun n d => 10 * n + (d.toNat - 48)) n

/-- The sign at the front of a text, and the rest. -/
def splitSign : List Char → Bool × List Char
  | '-' :: cs => (true, cs)
  | '+' :: cs => (false, cs)
  | cs => (false, cs)

/-- The exponent that a text is: nothing, or a letter, an optional sign and digits. -/
def readExponent? : List Char → Option Int
  | [] => some 0
  | e :: cs =>
    if e = 'e' || e = 'E' then
      let (negative, digits) := splitSign cs
      if digits.isEmpty || !digits.all Char.isDigit then none
      else if negative then some (-(digitsValue 0 digits : Int))
      else some (digitsValue 0 digits)
    else none

/-- The digits behind the point at the front of a text, if there is a point, and the rest. -/
def splitFraction : List Char → List Char × List Char
  | '.' :: cs => (cs.takeWhile Char.isDigit, cs.dropWhile Char.isDigit)
  | cs => ([], cs)

/-- The number that a text without a sign is. -/
def readNumber? (negative : Bool) (cs : List Char) : Option Decimal :=
  let whole := cs.takeWhile Char.isDigit
  let (fraction, rest) := splitFraction (cs.dropWhile Char.isDigit)
  if whole.isEmpty && fraction.isEmpty then none
  else
    match readExponent? rest with
    | some exponent =>
      some ⟨negative, digitsValue (digitsValue 0 whole) fraction, exponent - fraction.length⟩
    | none => none

/-- The numeral that a text is.  The words for infinity and for no number are read in any case. -/
def read? (cs : List Char) : Option Numeral :=
  let (negative, cs) := splitSign cs
  let word := String.ofList (cs.map Char.toLower)
  if word = "inf" || word = "infinity" then some (.infinite negative)
  else if word = "nan" then some .nan
  else (readNumber? negative cs).map .finite

end Numeral

/-! ### Rounding -/

namespace Decimal

/-- The integer nearest to a quotient; a tie goes to the even one. -/
def roundQuotient (num den : Nat) : Nat :=
  let whole := num / den
  let twice := 2 * (num % den)
  if twice < den then whole
  else if den < twice then whole + 1
  else whole + whole % 2

/-- The integer with at most 53 significant bits nearest to a quotient; a tie goes to the one whose
significand is even. -/
def roundBits (num den : Nat) : Nat :=
  let step := Nat.pow 2 ((num / den).log2 - 52)
  roundQuotient num (den * step) * step

/-- The multiples of the least positive number of the format that make up the number one. -/
def binary64Unit : Nat := Nat.pow 2 1074

/-- The multiples of the least positive number of the format from which a number overflows. -/
def binary64Bound : Nat := Nat.pow 2 (1024 + 1074)

/-- The magnitude of a decimal number as a quotient of natural numbers. -/
def quotient (d : Decimal) : Nat × Nat :=
  if 0 ≤ d.exponent then (d.coefficient * Nat.pow 10 d.exponent.toNat, 1)
  else (d.coefficient, Nat.pow 10 (-d.exponent).toNat)

/-- Whether a number is so great that it overflows, whatever its digits. -/
def isHuge (d : Decimal) : Bool :=
  d.coefficient != 0 && 310 < d.exponent

/-- Whether a number is so small that it rounds to zero, whatever its digits. -/
def isTiny (d : Decimal) : Bool :=
  d.coefficient == 0 || d.exponent + (d.coefficient.log2 + 1) < -330

/-- The magnitude of the nearest number of the format binary64, as a multiple of the least positive
one, if it does not overflow. -/
def toBinary64? (d : Decimal) : Option Nat :=
  if d.isHuge then none
  else if d.isTiny then some 0
  else
    let (num, den) := d.quotient
    let multiple := roundBits (num * binary64Unit) den
    if binary64Bound ≤ multiple then none else some multiple

end Decimal

end ObjectInitializer
