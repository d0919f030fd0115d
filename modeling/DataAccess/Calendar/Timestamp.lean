/-!
# Dates and times

Timestamps of the proleptic Gregorian calendar without a time zone. A leap second is the 59th
second of its minute with at least a thousand million nanoseconds, which no other second can have.
-/

namespace DataAccess.Calendar

/-- Leap years: every fourth year, save the centuries that four hundred does not divide. -/
def isLeapYear (year : Int) : Bool :=
  year % 4 == 0 && (year % 100 != 0 || year % 400 == 0)

/-- The number of days of a month; zero for a number that names no month. -/
def daysIn (year : Int) (month : Nat) : Nat :=
  match month with
  | 1 | 3 | 5 | 7 | 8 | 10 | 12 => 31
  | 4 | 6 | 9 | 11 => 30
  | 2 => if isLeapYear year then 29 else 28
  | _ => 0

/-- The first year that dates can have. -/
def firstYear : Int := -262143

/-- The last year that dates can have. -/
def lastYear : Int := 262142

/-- Whether the numbers name a day of the calendar. -/
def IsDate (year : Int) (month day : Nat) : Prop :=
  firstYear ≤ year ∧ year ≤ lastYear ∧ 1 ≤ day ∧ day ≤ daysIn year month

instance (year : Int) (month day : Nat) : Decidable (IsDate year month day) := by
  unfold IsDate; infer_instance

/-- A day of the calendar. -/
structure Date where
  year : Int
  month : Nat
  day : Nat
  valid : IsDate year month day
  deriving DecidableEq

def nanosPerSecond : Nat := 1000000000

/-- The numbers name a time of a day. A leap second goes on from the last second of a minute. -/
def IsTime (hour minute second nano : Nat) : Prop :=
  hour < 24 ∧ minute < 60 ∧ second < 60 ∧
    (nano < nanosPerSecond ∨ second = 59 ∧ nano < 2 * nanosPerSecond)

instance (hour minute second nano : Nat) : Decidable (IsTime hour minute second nano) := by
  unfold IsTime; infer_instance

/-- A time of day to the nanosecond. -/
structure TimeOfDay where
  hour : Nat
  minute : Nat
  second : Nat
  nano : Nat
  valid : IsTime hour minute second nano
  deriving DecidableEq

/-- A day and a time of that day. -/
structure Timestamp where
  date : Date
  time : TimeOfDay
  deriving DecidableEq

/-- The date of the numbers, if they name one. -/
def date? (year : Int) (month day : Nat) : Option Date :=
  if valid : IsDate year month day then some ⟨year, month, day, valid⟩ else none

/-- The time of the numbers, if they name one. -/
def time? (hour minute second nano : Nat) : Option TimeOfDay :=
  if valid : IsTime hour minute second nano then some ⟨hour, minute, second, nano, valid⟩ else none

namespace TimeOfDay

/-- Whether a time is in a leap second. -/
def isLeap (time : TimeOfDay) : Bool :=
  nanosPerSecond ≤ time.nano

/-- The second as a clock shows it, which is 60 during a leap second. -/
def shownSecond (time : TimeOfDay) : Nat :=
  if time.isLeap then time.second + 1 else time.second

/-- The nanoseconds since the second that the clock shows began. -/
def shownNano (time : TimeOfDay) : Nat :=
  if time.isLeap then time.nano - nanosPerSecond else time.nano

/-- The time of the numbers that a clock shows, where second 60 is a leap second. -/
def ofShown? (hour minute second nano : Nat) : Option TimeOfDay :=
  if second = 60 then time? hour minute 59 (nano + nanosPerSecond)
  else if nano < nanosPerSecond then time? hour minute second nano
  else none

end TimeOfDay

theorem date?_of_valid (date : Date) : date? date.year date.month date.day = some date := by
  simp [date?, date.valid]

theorem TimeOfDay.ofShown?_shown (time : TimeOfDay) :
    TimeOfDay.ofShown? time.hour time.minute time.shownSecond time.shownNano = some time := by
  obtain ⟨hour, minute, second, nano, valid⟩ := time
  have bounds := valid
  simp only [IsTime] at bounds
  obtain ⟨-, -, seconds, nanos⟩ := bounds
  by_cases leap : nanosPerSecond ≤ nano
  · have last : second = 59 := by omega
    subst last
    simp [ofShown?, shownSecond, shownNano, isLeap, leap, time?, valid]
  · have small : nano < nanosPerSecond := by omega
    have notSixty : second ≠ 60 := by omega
    simp [ofShown?, shownSecond, shownNano, isLeap, leap, time?, valid, small, notSixty]

end DataAccess.Calendar
