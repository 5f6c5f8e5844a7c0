import FilterQuery.Toml.Number

/-!
# Dates and times

A moment is a date, a time of day, or both with a mark between them, and then perhaps an offset from
universal time. Only moments that exist in the calendar are read. Each reader gives the text after
what it has read.
-/

namespace FilterQuery.Toml.Moment

/-- Reads a number of a given count of digits. -/
def number? (count : Nat) (text : List Char) : Option (Nat × List Char) :=
  let digits := text.take count
  if digits.length = count ∧ digits.all (Number.isDigitIn 10) then
    some (Hex.ofDigits 10 digits, text.drop count)
  else none

/-- The text after a character that has to come first. -/
def after? (c : Char) : List Char → Option (List Char)
  | d :: text => if d = c then some text else none
  | [] => none

/-- Whether a year has a leap day. -/
def isLeap (year : Nat) : Bool :=
  year % 4 == 0 && (year % 100 != 0 || year % 400 == 0)

/-- How many days a month has. -/
def daysIn (year month : Nat) : Nat :=
  if month = 2 then
    if isLeap year then 29 else 28
  else if month = 4 ∨ month = 6 ∨ month = 9 ∨ month = 11 then 30
  else 31

/-- Reads a date: year, month and day. -/
def date? (text : List Char) : Option (List Char) := do
  let (year, text) ← number? 4 text
  let (month, text) ← number? 2 (← after? '-' text)
  let (day, text) ← number? 2 (← after? '-' text)
  if 1 ≤ month ∧ month ≤ 12 ∧ 1 ≤ day ∧ day ≤ daysIn year month then some text else none

/-- Reads the fraction of a second, if a point announces one. -/
def fraction? : List Char → Option (List Char)
  | '.' :: text =>
    if text.head?.any (Number.isDigitIn 10) then some (text.dropWhile (Number.isDigitIn 10))
    else none
  | text => some text

/-- Reads the seconds of a time, if a colon announces them. A minute may have a leap second. -/
def seconds? : List Char → Option (List Char)
  | ':' :: text => do
    let (second, text) ← number? 2 text
    if second ≤ 60 then fraction? text else none
  | text => some text

/-- Reads hours and minutes. -/
def clock? (text : List Char) : Option (List Char) := do
  let (hour, text) ← number? 2 text
  let (minute, text) ← number? 2 (← after? ':' text)
  if hour ≤ 23 ∧ minute ≤ 59 then some text else none

/-- Reads a time of day. -/
def time? (text : List Char) : Option (List Char) := do
  seconds? (← clock? text)

/-- Whether a text is an offset from universal time, or empty. -/
def isOffset : List Char → Bool
  | [] => true
  | c :: text =>
    if c = 'Z' ∨ c = 'z' then text.isEmpty
    else (c == '+' || c == '-') && clock? text == some []

/-- Whether a text is a date. -/
def isDate (text : List Char) : Bool :=
  date? text == some []

/-- Whether a text is a date, a time of day, or both. -/
def isMoment (text : List Char) : Bool :=
  match date? text with
  | none => time? text == some []
  | some [] => true
  | some (c :: text) =>
    (c == 'T' || c == 't' || c == ' ') && (time? text).any isOffset

end FilterQuery.Toml.Moment
