/-!
Dates and times of day as texts: `2024-02-29`, `23:59:59.5Z`, and both together.

Every part has its number of digits. A date must be one of the calendar, with a leap year every four
years but for full centuries that 400 does not divide. A minute may have a second 60 if it is the
last of a month in universal time.
-/

namespace Attest.Text

structure Date where
  year : Nat
  month : Nat
  day : Nat
deriving DecidableEq, Repr

structure TimeOfDay where
  hour : Nat
  minute : Nat
  second : Nat
deriving DecidableEq, Repr

def isLeapYear (year : Nat) : Bool := year % 4 = 0 && (year % 100 ≠ 0 || year % 400 = 0)

def daysIn (year month : Nat) : Nat :=
  if month = 2 then if isLeapYear year then 29 else 28
  else if [4, 6, 9, 11].contains month then 30
  else 31

def Date.isValid (d : Date) : Bool :=
  1 ≤ d.month && d.month ≤ 12 && 1 ≤ d.day && d.day ≤ daysIn d.year d.month

/-- Reads so many digits. -/
def digits? (count : Nat) (cs : List Char) : Option (Nat × List Char) :=
  let digits := cs.take count
  if digits.length = count ∧ digits.all Char.isDigit then
    some (digits.foldl (fun n c => n * 10 + (c.toNat - 48)) 0, cs.drop count)
  else none

/-- Reads a date, which need not be one of the calendar. -/
def date? (cs : List Char) : Option (Date × List Char) := do
  let (year, '-' :: cs) ← digits? 4 cs | none
  let (month, '-' :: cs) ← digits? 2 cs | none
  let (day, cs) ← digits? 2 cs
  return (⟨year, month, day⟩, cs)

/-- Reads hours, minutes and seconds. -/
def timeOfDay? (cs : List Char) : Option (TimeOfDay × List Char) := do
  let (hour, ':' :: cs) ← digits? 2 cs | none
  let (minute, ':' :: cs) ← digits? 2 cs | none
  let (second, cs) ← digits? 2 cs
  return (⟨hour, minute, second⟩, cs)

/-- Reads how many minutes a place is ahead of universal time, up to so many hours. -/
def offset? (mostHours : Nat) (signs : List Char) (cs : List Char) : Option Int := do
  let sign :: cs := cs | none
  if sign = 'Z' ∨ sign = 'z' then if cs.isEmpty then return 0 else none
  else
    let (hours, ':' :: cs) ← digits? 2 cs | none
    let (minutes, cs) ← digits? 2 cs
    if signs.contains sign ∧ hours ≤ mostHours ∧ minutes ≤ 59 ∧ cs.isEmpty then
      let ahead : Int := (hours * 60 + minutes : Nat)
      return if sign = '-' then -ahead else ahead
    else none

def isDate (text : String) : Bool :=
  match date? text.toList with
  | some (date, []) => date.isValid
  | _ => false

/-- Whether the text is a time of day with a place. There may be six digits after the second. A bar
will do for the sign. -/
def isTime (text : String) : Bool :=
  match timeOfDay? text.toList with
  | some (t, rest) =>
    let rest := match rest with
      | '.' :: more => (digits? 6 more).elim rest (·.2)
      | _ => rest
    t.hour ≤ 23 && t.minute ≤ 59 && t.second ≤ 59 && (offset? 23 ['+', '|', '-'] rest).isSome
  | none => false

/-- Whether the time is the last minute of a month, in universal time, which may be a day off. -/
def endsMonth (d : Date) (t : TimeOfDay) (ahead : Int) : Bool :=
  let minutes : Int := (t.hour * 60 + t.minute : Nat) - ahead
  let last := daysIn d.year d.month
  if minutes = 1439 then d.day = last
  else if minutes = 1439 - 1440 then d.day = 1
  else if minutes = 1439 + 1440 then d.day + 1 = last
  else false

/-- Whether the text is a date, any character, and a time of day with a place. -/
def isDateTime (text : String) : Bool :=
  match date? text.toList with
  | some (d, separator :: rest) =>
    match timeOfDay? rest with
    | some (t, rest) =>
      let rest := match rest with
        | '.' :: c :: more => if c.isDigit then more.dropWhile Char.isDigit else rest
        | _ => rest
      match offset? 25 ['+', '-'] rest with
      | some ahead =>
        separator.toNat < 0x80 && d.isValid && t.hour ≤ 23 && t.minute ≤ 59 &&
          (t.second ≤ 59 || (t.second = 60 && endsMonth d t ahead))
      | none => false
    | none => false
  | _ => false

end Attest.Text
