/-!
# Hexadecimal numerals

The digits that escape sequences are written with.
-/

namespace Highlighter.Text

/-- The digit of a value below sixteen, letters as small letters. -/
def hexDigit (value : Nat) : Char :=
  if value < 10 then Char.ofNat ('0'.toNat + value) else Char.ofNat ('a'.toNat + (value - 10))

/-- The value of a hexadecimal digit, letters in either case. -/
def hexValue? (c : Char) : Option Nat :=
  if '0' ≤ c ∧ c ≤ '9' then some (c.toNat - '0'.toNat)
  else if 'a' ≤ c ∧ c ≤ 'f' then some (c.toNat - 'a'.toNat + 10)
  else if 'A' ≤ c ∧ c ≤ 'F' then some (c.toNat - 'A'.toNat + 10)
  else none

/-- The hexadecimal numeral of a number, without leading zeros. -/
def hexNumeral (number : Nat) : List Char :=
  if number < 16 then [hexDigit number]
  else hexNumeral (number / 16) ++ [hexDigit (number % 16)]

/-- The numeral padded with zeros on the left to at least `width` digits. -/
def hexPadded (width number : Nat) : List Char :=
  let digits := hexNumeral number
  List.replicate (width - digits.length) '0' ++ digits

end Highlighter.Text
