import TenantAccess.Number.Digit

/-! # Timestamps

Seconds since the beginning of 1970 as a date and a time of day, in the calendar of today
carried on into the past. Years are bounded by what fits into 32 bits.
-/

namespace TenantAccess

open TenantAccess.Number TenantAccess.Text

structure Day where
  year : Int
  /-- The month, from one. -/
  month : Nat
  /-- The day of the month, from one. -/
  day : Nat
  deriving Repr, DecidableEq

namespace Day

/-- The day so many days after the first of 1970. Years are counted from March, so that the
day that leap years add is the last of its year; four hundred years have 146097 days. -/
def ofCount (days : Int) : Day :=
  let shifted := days + 719468
  let inEra := (shifted % 146097).toNat
  let yearOfEra := (inEra - inEra / 1460 + inEra / 36524 - inEra / 146096) / 365
  let inYear := inEra - (365 * yearOfEra + yearOfEra / 4 - yearOfEra / 100)
  let fromMarch := (5 * inYear + 2) / 153
  let month := if fromMarch < 10 then fromMarch + 3 else fromMarch - 9
  { year := shifted / 146097 * 400 + yearOfEra + (if month ≤ 2 then 1 else 0)
    month := month
    day := inYear - (153 * fromMarch + 2) / 5 + 1 }

def twoDigits (n : Nat) : String := String.ofList (padZeros 2 (digitsIn 10 n))

def text (d : Day) : String := ofInt d.year ++ "-" ++ twoDigits d.month ++ "-" ++ twoDigits d.day

end Day

/-- Hours, minutes and seconds of a second of the day. -/
def timeOfDay (second : Nat) : String :=
  Day.twoDigits (second / 3600) ++ ":" ++ Day.twoDigits (second / 60 % 60) ++ ":" ++
    Day.twoDigits (second % 60)

/-- Why a value has no date. -/
inductive ClockFlaw where
  | numberExpected (typeName : String)
  | notANumber
  /-- It is beyond 64 bits. -/
  | beyondSeconds
  /-- Its year, counted from 1900, is beyond 32 bits. -/
  | beyondCalendar
  /-- Its year is beyond 32 bits. -/
  | beyondYears
  deriving Repr, DecidableEq

namespace ClockFlaw

def message : ClockFlaw → String
  | numberExpected typeName => "'" ++ typeName ++ "' object cannot be interpreted as an integer"
  | notANumber => "Invalid value NaN (not a number)"
  | beyondSeconds => "timestamp out of range for platform time_t"
  | beyondCalendar => "[Errno 75] Value too large for defined data type"
  | beyondYears => "signed integer is greater than maximum"

end ClockFlaw

/-- Date and time of a second since the beginning of 1970. -/
def dateTime (seconds : Int) : Except ClockFlaw String :=
  let day := Day.ofCount (seconds / 86400)
  if !fitsInto 64 seconds then .error .beyondSeconds
  else if !fitsInto 32 (day.year - 1900) then .error .beyondCalendar
  else if (twoTo 31 : Int) ≤ day.year then .error .beyondYears
  else .ok (day.text ++ " " ++ timeOfDay (seconds % 86400).toNat)

end TenantAccess
