namespace Pushdown.Text

/-!
# Numerals

Numbers in definitions and on the command line are decimal numerals of 64 bits:
an optional plus sign, then one or more ASCII digits.
-/

/-- Numbers stay below the power of two with exponent 64. -/
def numeralBound : Nat :=
  18446744073709551616

example : numeralBound = Nat.pow 2 64 :=
  rfl

/-- The value of a string of digits, the most significant first. -/
def digitsValue
    (digits : List Char) :
    Nat :=
  digits.foldl (fun value digit => 10 * value + (digit.toNat - '0'.toNat)) 0

/-- Drops one plus sign at the front. -/
def dropPlus : List Char → List Char
  | '+' :: rest =>
      rest
  | text =>
      text

/-- Reads a numeral; anything else, and a value that is too large, has no number. -/
def numeral?
    (text : String) :
    Option Nat :=
  let digits := dropPlus text.toList
  let value := digitsValue digits
  if digits ≠ [] ∧ digits.all Char.isDigit ∧ value < numeralBound then
    some value
  else
    none

end Pushdown.Text
