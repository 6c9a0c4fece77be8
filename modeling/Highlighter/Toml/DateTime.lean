/-!
# Dates and times of a document

A date, a time of day, or a date with a time that may have an offset. Only their form and the range
of their parts matter, since no setting is a date.
-/

namespace Highlighter.Toml

/-- Reads a number of exactly `count` digits. -/
def fixedNumber? (count : Nat) (text : List Char) : Option (Nat × List Char) :=
  let digits := text.take count
  if digits.length = count ∧ digits.all Char.isDigit then
    some (digits.foldl (fun value c => 10 * value + (c.toNat - '0'.toNat)) 0, text.drop count)
  else none

/-- Removes the given character from the start. -/
def expect? (c : Char) : List Char → Option (List Char)
  | first :: rest => if first = c then some rest else none
  | [] => none

/-- The number of days of a month. -/
def daysOfMonth (year month : Nat) : Nat :=
  if month = 2 then
    if year % 4 = 0 ∧ (year % 100 ≠ 0 ∨ year % 400 = 0) then 29 else 28
  else if month ∈ [4, 6, 9, 11] then 30
  else 31

/-- The text after the date that it starts with. -/
def afterDate? (text : List Char) : Option (List Char) := do
  let (year, text) ← fixedNumber? 4 text
  let (month, text) ← fixedNumber? 2 (← expect? '-' text)
  let (day, text) ← fixedNumber? 2 (← expect? '-' text)
  if 1 ≤ month ∧ month ≤ 12 ∧ 1 ≤ day ∧ day ≤ daysOfMonth year month then some text else none

/-- The text after hours and minutes. -/
def afterMinutes? (text : List Char) : Option (List Char) := do
  let (hour, text) ← fixedNumber? 2 text
  let (minute, text) ← fixedNumber? 2 (← expect? ':' text)
  if hour ≤ 23 ∧ minute ≤ 59 then some text else none

/-- The text after the time of day that it starts with. A minute may have a leap second. -/
def afterTime? (text : List Char) : Option (List Char) := do
  let (second, text) ← fixedNumber? 2 (← expect? ':' (← afterMinutes? text))
  if 60 < second then none
  match text with
  | '.' :: c :: rest => if c.isDigit then some (rest.dropWhile Char.isDigit) else none
  | '.' :: [] => none
  | text => some text

/-- The text after the offset from universal time that it may start with. -/
def afterOffset? : List Char → Option (List Char)
  | 'Z' :: rest | 'z' :: rest => some rest
  | '+' :: rest | '-' :: rest => afterMinutes? rest
  | text => some text

/-- Decides whether a text is a date without a time. -/
def isDate (text : List Char) : Bool :=
  afterDate? text == some []

/-- Decides whether a text is a time of day that may have an offset. -/
def isTimeWithOffset (text : List Char) : Bool :=
  (afterTime? text).bind afterOffset? == some []

/-- Decides whether a text is a date, a time of day, or a date and a time with the letter that
separates them. -/
def isDateTime (text : List Char) : Bool :=
  afterTime? text == some [] ||
    match afterDate? text with
    | some [] => true
    | some (mark :: time) => (mark == 'T' || mark == 't') && isTimeWithOffset time
    | none => false

end Highlighter.Toml
