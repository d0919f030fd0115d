import DataAccess.Calendar.Timestamp

/-!
# Writing timestamps

The two written forms of a timestamp: for an SQL parameter, to the second, and for exchange, to the
millisecond with a `T` in the middle and a `Z` at the end. Fractions are cut and not rounded, and a
leap second is written as second 60.
-/

namespace DataAccess.Calendar

/-- A number in decimal with zeros in front up to the width. -/
def padded (width n : Nat) : List Char :=
  let digits := Nat.toDigits 10 n
  List.replicate (width - digits.length) '0' ++ digits

/-- A year of at least four digits, with a sign where it is negative or beyond 9999. -/
def yearChars (year : Int) : List Char :=
  if year < 0 then '-' :: padded 4 year.natAbs
  else if 9999 < year then '+' :: padded 4 year.natAbs
  else padded 4 year.natAbs

/-- A day, as `year-month-day`. -/
def Date.chars (date : Date) : List Char :=
  yearChars date.year ++ '-' :: padded 2 date.month ++ '-' :: padded 2 date.day

/-- A time to the second, as `hour:minute:second`. -/
def TimeOfDay.chars (time : TimeOfDay) : List Char :=
  padded 2 time.hour ++ ':' :: padded 2 time.minute ++ ':' :: padded 2 time.shownSecond

/-- A moment as statements have it. -/
def Timestamp.sqlChars (t : Timestamp) : List Char :=
  t.date.chars ++ ' ' :: t.time.chars

/-- A moment in milliseconds with its zone. -/
def Timestamp.isoChars (t : Timestamp) : List Char :=
  t.date.chars ++ 'T' :: t.time.chars ++ '.' :: padded 3 (t.time.shownNano / 1000000) ++ ['Z']

/-- The text of a moment in statements. -/
def Timestamp.sqlText (t : Timestamp) : String :=
  String.ofList t.sqlChars

/-- The text of a moment outside of statements. -/
def Timestamp.isoText (t : Timestamp) : String :=
  String.ofList t.isoChars

end DataAccess.Calendar
