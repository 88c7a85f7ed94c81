/-!
# Time stamps

The moment that a line of a log file carries, down to a thousandth of a second.
-/

namespace DartRecords.Log

/-- A moment by the calendar and the clock. -/
structure Stamp where
  year : Nat := 1970
  month : Nat := 1
  day : Nat := 1
  hour : Nat := 0
  minute : Nat := 0
  second : Nat := 0
  millisecond : Nat := 0
  deriving DecidableEq, Repr

/-- A number with at least so many digits. -/
def padded (width n : Nat) : String :=
  let digits := Nat.toDigits 10 n
  String.ofList (List.replicate (width - digits.length) '0' ++ digits)

namespace Stamp

/-- The text of a moment: the date, the time, and the thousandths after a comma. -/
def toText (s : Stamp) : String :=
  padded 4 s.year ++ "-" ++ padded 2 s.month ++ "-" ++ padded 2 s.day ++ " "
    ++ padded 2 s.hour ++ ":" ++ padded 2 s.minute ++ ":" ++ padded 2 s.second ++ ","
    ++ padded 3 s.millisecond

/-- The moment so many milliseconds after the start of the year 1970.  Years are counted from
March, so that the day that only some years have comes last, and in cycles of 400. -/
def ofMilliseconds (n : Nat) : Stamp :=
  let seconds := n / 1000
  let days := seconds / 86400 + 719468
  let dayOfCycle := days % 146097
  let yearOfCycle :=
    (dayOfCycle - dayOfCycle / 1460 + dayOfCycle / 36524 - dayOfCycle / 146096) / 365
  let dayOfYear := dayOfCycle - (365 * yearOfCycle + yearOfCycle / 4 - yearOfCycle / 100)
  let monthFromMarch := (5 * dayOfYear + 2) / 153
  let month := if monthFromMarch < 10 then monthFromMarch + 3 else monthFromMarch - 9
  { year := yearOfCycle + 400 * (days / 146097) + (if month ≤ 2 then 1 else 0)
    month
    day := dayOfYear - (153 * monthFromMarch + 2) / 5 + 1
    hour := seconds % 86400 / 3600
    minute := seconds % 3600 / 60
    second := seconds % 60
    millisecond := n % 1000 }

end Stamp

end DartRecords.Log
