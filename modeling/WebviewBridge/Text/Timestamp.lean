/-!
# Moments in the log

A moment as a date and a time of day in universal time.  Parts of a second are shown in as many
groups of three decimals as they need.
-/

namespace WebviewBridge.Text

/-- A day of the calendar. -/
structure CalendarDay where
  year : Nat
  month : Nat
  day : Nat
deriving DecidableEq, Repr

/-- The day of a number, counted from the first of January 1970.  Years are reckoned from March,
so that a leap day comes last, in eras of 400 years, which all have the same number of days. -/
def CalendarDay.ofNumber (n : Nat) : CalendarDay :=
  let days := n + 719468
  let era := days / 146097
  let dayOfEra := days % 146097
  let yearOfEra := (dayOfEra - dayOfEra / 1460 + dayOfEra / 36524 - dayOfEra / 146096) / 365
  let dayOfYear := dayOfEra - (365 * yearOfEra + yearOfEra / 4 - yearOfEra / 100)
  let monthFromMarch := (5 * dayOfYear + 2) / 153
  let day := dayOfYear - (153 * monthFromMarch + 2) / 5 + 1
  let month := if monthFromMarch < 10 then monthFromMarch + 3 else monthFromMarch - 9
  let year := yearOfEra + era * 400 + if month ≤ 2 then 1 else 0
  { year, month, day }

/-- A number with zeros in front up to a width. -/
def zeroPadded (width n : Nat) : String :=
  let digits := toString n
  String.ofList (List.replicate (width - digits.length) '0') ++ digits

/-- Nanoseconds as decimals of a second, with the point; nothing for zero. -/
def fraction (nanoseconds : Nat) : String :=
  if nanoseconds = 0 then ""
  else if nanoseconds % 1000000 = 0 then "." ++ zeroPadded 3 (nanoseconds / 1000000)
  else if nanoseconds % 1000 = 0 then "." ++ zeroPadded 6 (nanoseconds / 1000)
  else "." ++ zeroPadded 9 nanoseconds

/-- The text of a moment in nanoseconds since the first of January 1970. -/
def timestamp (nanoseconds : Nat) : String :=
  let seconds := nanoseconds / 1000000000
  let d := CalendarDay.ofNumber (seconds / 86400)
  let time := seconds % 86400
  zeroPadded 4 d.year ++ "-" ++ zeroPadded 2 d.month ++ "-" ++ zeroPadded 2 d.day ++ "T"
    ++ zeroPadded 2 (time / 3600) ++ ":" ++ zeroPadded 2 (time / 60 % 60) ++ ":"
    ++ zeroPadded 2 (time % 60) ++ fraction (nanoseconds % 1000000000) ++ "Z"

end WebviewBridge.Text
