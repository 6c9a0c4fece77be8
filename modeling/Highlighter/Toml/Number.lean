/-!
# Numbers of a document

Integers in four bases and numbers with a fraction or an exponent. Digits may be grouped by single
underscores that stand between two of them. An integer has to fit in 64 bits with a sign, and a
positive number has to be below the overflow threshold of 64-bit floating point.
-/

namespace Highlighter.Toml

/-- Removes the underscores between digits, or fails if a character is no digit, an underscore does
not stand between two digits, or there are no digits at all. -/
def ungroup? (isDigit : Char → Bool) : List Char → Option (List Char)
  | [] => none
  | [c] => if isDigit c then some [c] else none
  | c :: '_' :: rest => if isDigit c then (ungroup? isDigit rest).map (c :: ·) else none
  | c :: rest => if isDigit c then (ungroup? isDigit rest).map (c :: ·) else none

/-- The value of digits in a base; small and capital letters stand for the digits from ten. -/
def valueOfDigits (base : Nat) (digits : List Char) : Nat :=
  digits.foldl (fun value c => base * value + digitValue c) 0
where
  /-- The value of one digit. -/
  digitValue (c : Char) : Nat :=
    if c.isDigit then c.toNat - '0'.toNat else c.toLower.toNat - 'a'.toNat + 10

/-- Removes the sign that a number may start with and tells whether it was a minus. -/
def splitSign : List Char → Bool × List Char
  | '+' :: rest => (false, rest)
  | '-' :: rest => (true, rest)
  | text => (false, text)

/-- The digits of a decimal integer without sign, which has no leading zeros. -/
def decimalDigits? (text : List Char) : Option (List Char) :=
  match text with
  | '0' :: _ :: _ => none
  | _ => ungroup? Char.isDigit text

/-- The integers that fit in 64 bits with a sign. -/
def fits (number : Int) : Bool :=
  -0x8000000000000000 ≤ number && number < 0x8000000000000000

/-- Reads digits in a base other than ten behind the letters that announce the base. -/
def based? (base : Nat) (isDigit : Char → Bool) (text : List Char) : Option Int := do
  let digits ← ungroup? isDigit text
  return (valueOfDigits base digits : Int)

/-- A hexadecimal digit. -/
def isHexDigit (c : Char) : Bool :=
  c.isDigit || ('a' ≤ c.toLower && c.toLower ≤ 'f')

/-- Reads an integer. -/
def integer? (text : List Char) : Option Int :=
  let number := match text with
    | '0' :: 'x' :: rest => based? 16 isHexDigit rest
    | '0' :: 'o' :: rest => based? 8 (fun c => '0' ≤ c && c ≤ '7') rest
    | '0' :: 'b' :: rest => based? 2 (fun c => c == '0' || c == '1') rest
    | _ => do
      let (negative, text) := splitSign text
      let value := valueOfDigits 10 (← decimalDigits? text)
      return if negative then -(value : Int) else value
  number.filter fits

/-- Decides whether `mantissa` times ten to the `exponent` rounds to infinity as a 64-bit number:
whether it is at least half a step above the greatest finite one. -/
def overflows (mantissa : Nat) (exponent : Int) : Bool :=
  let threshold := Nat.pow 2 1024 - Nat.pow 2 970
  let size := (Nat.toDigits 10 mantissa).length + exponent
  if mantissa = 0 ∨ size < 300 then false
  else if 320 < size then true
  else if 0 ≤ exponent then threshold ≤ mantissa * Nat.pow 10 exponent.toNat
  else threshold * Nat.pow 10 (-exponent).toNat ≤ mantissa

/-- Reads the exponent behind its letter. -/
def exponent? (text : List Char) : Option Int := do
  let (negative, digits) := splitSign text
  let value := valueOfDigits 10 (← ungroup? Char.isDigit digits)
  return if negative then -(value : Int) else value

/-- Decides whether a character is the letter before an exponent. -/
def isExponentMark (c : Char) : Bool :=
  c == 'e' || c == 'E'

/-- Reads the part of a number behind its point: digits, and an exponent that may follow. -/
def fraction? (text : List Char) : Option (List Char × Int) := do
  let digits ← ungroup? Char.isDigit (text.takeWhile fun c => !isExponentMark c)
  match text.dropWhile fun c => !isExponentMark c with
  | [] => return (digits, 0)
  | _ :: exponent => return (digits, ← exponent? exponent)

/-- Decides whether a text is a number with a fraction or an exponent that a 64-bit floating point
number can hold, or one of the values that are no numbers. -/
def isFloat (text : List Char) : Bool :=
  let (negative, magnitude) := splitSign text
  if magnitude = ['i', 'n', 'f'] ∨ magnitude = ['n', 'a', 'n'] then true
  else
    let whole := magnitude.takeWhile fun c => !(c == '.' || isExponentMark c)
    let parts := do
      let digits ← decimalDigits? whole
      match magnitude.dropWhile fun c => !(c == '.' || isExponentMark c) with
      | '.' :: rest =>
        let (fraction, exponent) ← fraction? rest
        return (digits ++ fraction, exponent - fraction.length)
      | _ :: rest => return (digits, ← exponent? rest)
      | [] => none
    match parts with
    | some (digits, exponent) => negative || !overflows (valueOfDigits 10 digits) exponent
    | none => false

end Highlighter.Toml
