/-!
The proleptic Gregorian calendar: days are numbered from 1 January of the year 1, which is day 1.
-/

namespace MessageFlow.Calendar

def isLeapYear (year : Nat) : Bool :=
  year % 4 == 0 && (year % 100 != 0 || year % 400 == 0)

def daysInMonth (year month : Nat) : Nat :=
  if month = 2 then if isLeapYear year then 29 else 28
  else if month = 4 ∨ month = 6 ∨ month = 9 ∨ month = 11 then 30
  else 31

/-- The days of all earlier years. -/
def daysBeforeYear (year : Nat) : Nat :=
  let passed := year - 1
  passed * 365 + passed / 4 - passed / 100 + passed / 400

/-- The days of the first `months` months of the year. -/
def daysOfMonths (year : Nat) : Nat → Nat
  | 0 => 0
  | months + 1 => daysOfMonths year months + daysInMonth year (months + 1)

def dayNumber (year month day : Nat) : Nat :=
  daysBeforeYear year + daysOfMonths year (month - 1) + day

/-- The year that holds the day: the latest of three candidates that begins before it. -/
def yearOfDay (number : Nat) : Nat :=
  let guess := number * 400 / 146097 + 1
  (([guess + 1, guess].find? fun year => daysBeforeYear year < number)).getD (guess - 1)

/-- The month and the day of the month on the given day of the year, from the candidate month on. -/
def monthOfDay (year : Nat) : Nat → Nat → Nat → Nat × Nat
  | 0, month, day => (month, day)
  | fuel + 1, month, day =>
    let length := daysInMonth year month
    if day ≤ length then (month, day) else monthOfDay year fuel (month + 1) (day - length)

/-- Year, month and day of a day number. -/
def dateOfDay (number : Nat) : Nat × Nat × Nat :=
  let year := yearOfDay number
  let (month, day) := monthOfDay year 11 1 (number - daysBeforeYear year)
  (year, month, day)

end MessageFlow.Calendar
