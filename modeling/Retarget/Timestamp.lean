/-!
# Timestamps

The date and the time of day of a second, counted from the start of the year 1970.
-/

namespace Retarget.Timestamp

/-- A date and a time of day. -/
structure Moment where
  year : Nat
  month : Nat
  day : Nat
  hour : Nat
  minute : Nat
  second : Nat
deriving Repr, BEq, DecidableEq

/-- The year, month and day of a day, counted from the first of March of the year 0. Years begin with March here, so
that a leap day is the last day of its year. -/
def dateOfDay (day : Nat) : Nat × Nat × Nat :=
  let era := day / 146097
  let dayOfEra := day % 146097
  let yearOfEra := (dayOfEra - dayOfEra / 1460 + dayOfEra / 36524 - dayOfEra / 146096) / 365
  let dayOfYear := dayOfEra - (365 * yearOfEra + yearOfEra / 4 - yearOfEra / 100)
  let shifted := (5 * dayOfYear + 2) / 153
  let month := if shifted < 10 then shifted + 3 else shifted - 9
  (yearOfEra + 400 * era + (if month ≤ 2 then 1 else 0), month, dayOfYear - (153 * shifted + 2) / 5 + 1)

/-- The date and the time of a second. -/
def ofSeconds (seconds : Nat) : Moment :=
  let (year, month, day) := dateOfDay (seconds / 86400 + 719468)
  let rest := seconds % 86400
  ⟨year, month, day, rest / 3600, rest / 60 % 60, rest % 60⟩

/-- A number in so many digits. -/
def padded (width n : Nat) : String :=
  let digits := Nat.toDigits 10 n
  String.ofList (List.replicate (width - digits.length) '0' ++ digits)

/-- A moment as text, with a mark between hours, minutes and seconds. -/
def Moment.render (m : Moment) (mark : String) : String :=
  let date := String.intercalate "-" [padded 4 m.year, padded 2 m.month, padded 2 m.day]
  let time := String.intercalate mark [padded 2 m.hour, padded 2 m.minute, padded 2 m.second]
  date ++ "T" ++ time

end Retarget.Timestamp
