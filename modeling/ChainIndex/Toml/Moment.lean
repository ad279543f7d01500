import ChainIndex.Text.Numeral

/-!
# ChainIndex.Toml.Moment

Dates and times of a TOML text: a date, a time, or both, and then perhaps the distance of
the time from universal time.
-/

namespace ChainIndex.Toml

/-- A number of two digits from `low` to `high`, and the rest. -/
def readTwoDigits (low high : Nat) : List Char → Option (Nat × List Char)
  | a :: b :: rest => do
    let a ← Text.digitValue? 10 a
    let b ← Text.digitValue? 10 b
    let n := a * 10 + b
    if low ≤ n ∧ n ≤ high then some (n, rest) else none
  | _ => none

/-- Whether a year has a leap day. -/
def isLeapYear (year : Nat) : Bool :=
  year % 4 = 0 && (year % 100 ≠ 0 || year % 400 = 0)

/-- The number of days in a month. -/
def daysIn (year month : Nat) : Nat :=
  if month = 2 then if isLeapYear year then 29 else 28
  else if month = 4 ∨ month = 6 ∨ month = 9 ∨ month = 11 then 30
  else 31

/-- The text after a character it starts with. -/
def after? (c : Char) : List Char → Option (List Char)
  | d :: rest => if d = c then some rest else none
  | [] => none

/-- The text after a date of the calendar. -/
def skipDate? (text : List Char) : Option (List Char) := do
  let (century, text) ← readTwoDigits 0 99 text
  let (year, text) ← readTwoDigits 0 99 text
  let text ← after? '-' text
  let (month, text) ← readTwoDigits 1 12 text
  let text ← after? '-' text
  let (_, text) ← readTwoDigits 1 (daysIn (century * 100 + year) month) text
  return text

/-- The text after a fraction of a second, if one follows. -/
def skipSecondFraction : List Char → List Char
  | '.' :: c :: rest => if c.isDigit then rest.dropWhile Char.isDigit else '.' :: c :: rest
  | text => text

/-- The text after a time of the day; a minute may have a 61st second. -/
def skipTime? (text : List Char) : Option (List Char) := do
  let (_, text) ← readTwoDigits 0 23 text
  let text ← after? ':' text
  let (_, text) ← readTwoDigits 0 59 text
  let text ← after? ':' text
  let (_, text) ← readTwoDigits 0 60 text
  return skipSecondFraction text

/-- The text after the distance from universal time. -/
def skipOffset? : List Char → Option (List Char)
  | c :: rest =>
    if c = 'Z' ∨ c = 'z' then some rest
    else if c = '+' ∨ c = '-' then do
      let (_, rest) ← readTwoDigits 0 23 rest
      let rest ← after? ':' rest
      let (_, rest) ← readTwoDigits 0 59 rest
      return rest
    else none
  | [] => none

/-- The text after a time and the distance from universal time, if there is one. -/
def skipZonedTime? (text : List Char) : Option (List Char) :=
  (skipTime? text).map fun rest => (skipOffset? rest).getD rest

/-- The text after a date and the time that follows it, if there is one. -/
def skipDateTime? (text : List Char) : Option (List Char) :=
  (skipDate? text).map fun rest =>
    match rest with
    | c :: time =>
      if c = 'T' ∨ c = 't' ∨ c = ' ' then (skipZonedTime? time).getD rest else rest
    | [] => []

/-- A date, a time or both as written, and the rest; a time alone has no distance from
universal time. -/
def readMoment (text : List Char) : Option (String × List Char) :=
  ((skipDateTime? text).or (skipTime? text)).map fun rest =>
    (String.ofList (text.take (text.length - rest.length)), rest)

end ChainIndex.Toml
