/-!
# Dates

A moment is given in seconds since the beginning of 1970, without leap seconds. Its date is
found by counting in **eras** of 400 years that begin on the first of March, because then
the leap day is the last day of its year and the lengths of the months follow one rule.
-/

namespace Courier.Moment

/-- A day of the calendar. -/
structure Day where
  year : Nat
  month : Nat
  day : Nat
deriving DecidableEq, Inhabited

/-- The day that is so many days after the first of January 1970. -/
def day (days : Nat) : Day :=
  let shifted := days + 719468
  let era := shifted / 146097
  let dayOfEra := shifted % 146097
  let yearOfEra := (dayOfEra - dayOfEra / 1460 + dayOfEra / 36524 - dayOfEra / 146096) / 365
  let dayOfYear := dayOfEra - (365 * yearOfEra + yearOfEra / 4 - yearOfEra / 100)
  let shiftedMonth := (5 * dayOfYear + 2) / 153
  let month := if shiftedMonth < 10 then shiftedMonth + 3 else shiftedMonth - 9
  { year := yearOfEra + 400 * era + (if month ≤ 2 then 1 else 0)
    month := month
    day := dayOfYear - (153 * shiftedMonth + 2) / 5 + 1 }

/-- A number in at least so many digits. -/
def padded (width n : Nat) : String :=
  let digits := Nat.toDigits 10 n
  String.ofList (List.replicate (width - digits.length) '0' ++ digits)

/-- A moment as it is signed: year, month and day, the letter `T`, hour, minute and second,
and the letter `Z`. -/
def signed (seconds : Nat) : String :=
  let d := day (seconds / 86400)
  let s := seconds % 86400
  padded 4 d.year ++ padded 2 d.month ++ padded 2 d.day ++ "T"
    ++ padded 2 (s / 3600) ++ padded 2 (s / 60 % 60) ++ padded 2 (s % 60) ++ "Z"

end Courier.Moment
