import DataAccess.Calendar.Pattern
import DataAccess.Calendar.Written
import DataAccess.Proofs.Text.Splitting
import DataAccess.Proofs.Text.Trimming
import Mathlib.Algebra.Group.Nat.Defs

/-!
# Reading written timestamps

A written day is read by the day pattern and a written time by the time pattern, whatever follows
them, as long as it does not go on with a digit. Hence the SQL text of a timestamp is read back as
the same timestamp if it has no fraction of a second (`timestamp?_sqlText`), and the text for
exchange is read back as the timestamp cut to milliseconds (`timestamp?_isoText`).
-/

namespace DataAccess.Calendar

open Text Numeral

/-- The text does not go on with a digit. -/
def StartsNoDigit (text : List Char) : Prop :=
  ∀ c ∈ text.head?, c.isDigit = false

theorem startsNoDigit_nil : StartsNoDigit [] := by
  intro c member
  cases member

theorem startsNoDigit_cons {c : Char} (other : c.isDigit = false) (text : List Char) :
    StartsNoDigit (c :: text) := by
  intro d member
  cases member
  exact other

/-- A padded number has digits only. -/
theorem isDigit_of_mem_padded {width n : Nat} {c : Char} (member : c ∈ padded width n) :
    c.isDigit = true := by
  rcases List.mem_append.mp member with zero | digit
  · obtain ⟨-, rfl⟩ := List.mem_replicate.mp zero
    rfl
  · exact Nat.isDigit_of_mem_toDigits (by decide) (by decide) digit

/-- A padded number has at least one digit. -/
theorem padded_ne_nil (width n : Nat) : padded width n ≠ [] := by
  intro empty
  exact Nat.toDigits_ne_nil (List.append_eq_nil_iff.mp empty).2

/-- A number that fits is padded to the width. -/
theorem length_padded {width n : Nat} (positive : 0 < width) (small : n < 10 ^ width) :
    (padded width n).length = width := by
  have fits : (Nat.toDigits 10 n).length ≤ width :=
    (Nat.length_toDigits_le_iff (by decide) positive).mpr small
  simp only [padded, List.length_append, List.length_replicate]
  omega

/-- The value of digits is the one of the library. -/
theorem digitsValue_eq (digits : List Char) :
    digitsValue digits = Nat.ofDigitChars 10 digits 0 := by
  rw [digitsValue, Nat.ofDigitChars_eq_foldl]
  congr 1
  funext value c
  rw [digitValue, Nat.mul_comm]

/-- A padded number has its own value. -/
theorem digitsValue_padded (width n : Nat) : digitsValue (padded width n) = n := by
  rw [digitsValue_eq, padded, Nat.ofDigitChars_append, Nat.ofDigitChars_replicate_zero,
    Nat.mul_zero, Nat.ofDigitChars_ten_toDigits]

/-- Digits are read up to the first character that is none. -/
theorem readDigits_append {digits text : List Char} {most : Option Nat}
    (all : ∀ c ∈ digits, c.isDigit = true) (some : digits ≠ [])
    (fits : ∀ limit ∈ most, digits.length ≤ limit) (ends : StartsNoDigit text) :
    readDigits most (digits ++ text) = .some (digits, text) := by
  have run : (digits ++ text).takeWhile Char.isDigit = digits := (takeWhile_append all ends).1
  have nonempty : digits.isEmpty = false := List.isEmpty_eq_false_iff.mpr some
  cases most with
  | none => simp [readDigits, run, nonempty]
  | some limit => simp [readDigits, run, List.take_of_length_le (fits limit rfl), nonempty]

/-- Digits are no white space. -/
theorem isBlank_of_isDigit {c : Char} (digit : c.isDigit = true) : isBlank c = false := by
  simp only [Char.isDigit, Bool.and_eq_true, decide_eq_true_eq, UInt32.le_iff_toNat_le] at digit
  have bounds : 48 ≤ c.toNat ∧ c.toNat ≤ 57 := digit
  simp only [isBlank, Bool.or_eq_false_iff, Bool.and_eq_false_iff, decide_eq_false_iff_not]
  omega

/-- A padded number begins with a digit. -/
theorem head?_padded_append {width n : Nat} {text : List Char} {c : Char}
    (first : c ∈ (padded width n ++ text).head?) : c.isDigit = true := by
  cases digits : padded width n with
  | nil => exact absurd digits (padded_ne_nil width n)
  | cons d rest =>
      rw [digits] at first
      cases first
      exact isDigit_of_mem_padded (digits ▸ List.mem_cons_self)

/-- Two digits are read as their number. -/
theorem readPair_padded {n : Nat} {text : List Char} (small : n < 100)
    (ends : StartsNoDigit text) :
    readPair (dropBlanks (padded 2 n ++ text)) = some (n, text) := by
  have width : (padded 2 n).length = 2 := length_padded (by decide) small
  rw [dropBlanks_of_head fun c first => isBlank_of_isDigit (head?_padded_append first),
    readPair, readDigits_append (fun c => isDigit_of_mem_padded) (padded_ne_nil 2 n)
      (fun limit same => by cases same; exact Nat.le_of_eq width) ends]
  simp only [Option.map_some, digitsValue_padded]

/-- A year is read back. Beyond four digits, and before the year zero, it has a sign. -/
theorem readYear_yearChars (year : Int) {text : List Char} (ends : StartsNoDigit text) :
    readYear (dropBlanks (yearChars year ++ text)) = some (year, text) := by
  have digits (most : Option Nat) (fits : ∀ limit ∈ most, (padded 4 year.natAbs).length ≤ limit) :
      readDigits most (padded 4 year.natAbs ++ text) = some (padded 4 year.natAbs, text) :=
    readDigits_append (fun c => isDigit_of_mem_padded) (padded_ne_nil 4 _) fits ends
  have unlimited := digits none (fun limit absent => by cases absent)
  by_cases negative : year < 0
  · have value : -(year.natAbs : Int) = year := by omega
    rw [yearChars, if_pos negative, List.cons_append,
      dropBlanks_of_head (fun c first => by cases first; decide), readYear, unlimited]
    simp only [Option.map_some, digitsValue_padded, value]
  · have value : (year.natAbs : Int) = year := by omega
    by_cases large : 9999 < year
    · rw [yearChars, if_neg negative, if_pos large, List.cons_append,
        dropBlanks_of_head (fun c first => by cases first; decide), readYear, unlimited]
      simp only [Option.map_some, digitsValue_padded, value]
    · have small : year.natAbs < 10 ^ 4 := by omega
      have limited := digits (some 4) fun limit same => by
        cases same
        exact Nat.le_of_eq (length_padded (by decide) small)
      rw [yearChars, if_neg negative, if_neg large,
        dropBlanks_of_head fun c first => isBlank_of_isDigit (head?_padded_append first)]
      have unsigned (c : Char) (other : c.isDigit = false) (rest : List Char) :
          padded 4 year.natAbs ++ text ≠ c :: rest := by
        intro same
        have digit := head?_padded_append (c := c) (congrArg List.head? same)
        rw [other] at digit
        cases digit
      rw [readYear.eq_3 _ (fun rest => unsigned '-' rfl rest) (fun rest => unsigned '+' rfl rest),
        limited]
      simp only [Option.map_some, digitsValue_padded, value]

/-- No month has more than 31 days. -/
theorem daysIn_le (year : Int) (month : Nat) : daysIn year month ≤ 31 := by
  unfold daysIn
  split <;> first | omega | (split <;> omega)

/-- Behind December there are no days. -/
theorem daysIn_of_large {month : Nat} (large : 12 < month) (year : Int) :
    daysIn year month = 0 := by
  unfold daysIn
  split <;> omega

theorem Date.month_lt (date : Date) : date.month < 100 := by
  obtain ⟨-, -, first, last⟩ := date.valid
  refine Nat.lt_of_not_le fun large => ?_
  have none : daysIn date.year date.month = 0 := daysIn_of_large (by omega) date.year
  omega

theorem Date.day_lt (date : Date) : date.day < 100 := by
  obtain ⟨-, -, -, last⟩ := date.valid
  have days := daysIn_le date.year date.month
  omega

theorem TimeOfDay.shownSecond_lt (time : TimeOfDay) : time.shownSecond < 100 := by
  obtain ⟨hour, minute, second, nano, valid⟩ := time
  obtain ⟨-, -, seconds, -⟩ := valid
  simp only [shownSecond]
  split <;> omega

/-- The day pattern reads a written day and leaves what follows to the next items. -/
theorem read_date (date : Date) (reading : Reading) (items : Pattern) {text : List Char}
    (ends : StartsNoDigit text) :
    Pattern.read reading (datePattern ++ items) (date.chars ++ text) =
      Pattern.read { reading with year := date.year, month := date.month, day := date.day }
        items text := by
  have dash (rest : List Char) : StartsNoDigit ('-' :: rest) := startsNoDigit_cons rfl rest
  simp only [datePattern, Date.chars, List.cons_append, List.nil_append, List.append_assoc,
    Pattern.read, PatternItem.read, readYear_yearChars date.year (dash _),
    readPair_padded date.month_lt (dash _), readPair_padded date.day_lt ends, Option.map_some,
    ↓reduceIte]

/-- The time pattern reads a written time and leaves what follows to the next items. -/
theorem read_time (time : TimeOfDay) (reading : Reading) (items : Pattern) {text : List Char}
    (ends : StartsNoDigit text) :
    Pattern.read reading (timePattern ++ items) (time.chars ++ text) =
      Pattern.read
        { reading with hour := time.hour, minute := time.minute, second := time.shownSecond }
        items text := by
  have colon (rest : List Char) : StartsNoDigit (':' :: rest) := startsNoDigit_cons rfl rest
  have hours : time.hour < 100 := Nat.lt_trans time.valid.1 (by decide)
  have minutes : time.minute < 100 := Nat.lt_trans time.valid.2.1 (by decide)
  simp only [timePattern, TimeOfDay.chars, List.cons_append, List.nil_append, List.append_assoc,
    Pattern.read, PatternItem.read, readPair_padded hours (colon _),
    readPair_padded minutes (colon _), readPair_padded time.shownSecond_lt ends, Option.map_some,
    ↓reduceIte]

/-- A year does not begin with white space. -/
theorem isBlank_of_head?_yearChars {year : Int} {text : List Char} {c : Char}
    (first : c ∈ (yearChars year ++ text).head?) : isBlank c = false := by
  unfold yearChars at first
  split at first
  · cases first
    decide
  · split at first
    · cases first
      decide
    · exact isBlank_of_isDigit (head?_padded_append first)

/-- A padded number ends in a digit. -/
theorem isDigit_of_getLast?_padded {front : List Char} {width n : Nat} {c : Char}
    (last : c ∈ (front ++ padded width n).getLast?) : c.isDigit = true := by
  rw [List.getLast?_append, List.getLast?_eq_some_getLast (padded_ne_nil width n),
    Option.some_or] at last
  cases last
  exact isDigit_of_mem_padded (List.getLast_mem (padded_ne_nil width n))

/-- A written time begins with a digit. -/
theorem TimeOfDay.head?_chars {time : TimeOfDay} {c : Char} (first : c ∈ time.chars.head?) :
    c.isDigit = true := by
  simp only [TimeOfDay.chars, List.append_assoc] at first
  exact head?_padded_append first

/-- A moment written for statements ends in a digit. -/
theorem Timestamp.getLast?_sqlChars {t : Timestamp} {c : Char} (last : c ∈ t.sqlChars.getLast?) :
    c.isDigit = true := by
  have shape : t.sqlChars =
      (t.date.chars ++ ' ' :: padded 2 t.time.hour ++ ':' :: padded 2 t.time.minute ++ [':']) ++
        padded 2 t.time.shownSecond := by
    simp [Timestamp.sqlChars, TimeOfDay.chars]
  rw [shape] at last
  exact isDigit_of_getLast?_padded last

/-- The SQL text of a timestamp has nothing at its ends that reading would drop. -/
theorem Timestamp.dropZone_trimChars_sqlChars (t : Timestamp) :
    dropZone (trimChars t.sqlChars) = t.sqlChars := by
  have trimmed : trimChars t.sqlChars = t.sqlChars := by
    apply trimChars_of_ends
    · intro c first
      simp only [Timestamp.sqlChars, Date.chars, List.append_assoc] at first
      exact isBlank_of_head?_yearChars first
    · intro c last
      exact isBlank_of_isDigit (Timestamp.getLast?_sqlChars last)
  have noZone : t.sqlChars.getLast? ≠ some 'Z' := by
    intro zone
    have digit : ('Z' : Char).isDigit = true := Timestamp.getLast?_sqlChars zone
    exact absurd digit (by decide)
  rw [trimmed, dropZone, if_neg noZone]

/-- Whether a timestamp falls on a second. -/
def Timestamp.IsWhole (t : Timestamp) : Prop :=
  t.time.shownNano = 0

instance (t : Timestamp) : Decidable t.IsWhole :=
  inferInstanceAs (Decidable (_ = _))

/-- A reading of all that a timestamp shows is the timestamp. -/
theorem Reading.timestamp?_of_shown (t : Timestamp) :
    Reading.timestamp?
      { year := t.date.year, month := t.date.month, day := t.date.day, hour := t.time.hour,
        minute := t.time.minute, second := t.time.shownSecond, nano := t.time.shownNano } =
      some t := by
  rw [Reading.timestamp?, date?_of_valid, t.time.ofShown?_shown]

/-- **Reading the SQL text.** A timestamp that falls on a second is read back from its SQL text. -/
theorem timestamp?_sqlText {t : Timestamp} (whole : t.IsWhole) : timestamp? t.sqlText = some t := by
  have blank : StartsNoDigit (' ' :: t.time.chars) := startsNoDigit_cons rfl _
  have gap : dropBlanks (' ' :: t.time.chars) = t.time.chars := by
    have time : dropBlanks t.time.chars = t.time.chars :=
      dropBlanks_of_head fun c first => isBlank_of_isDigit (TimeOfDay.head?_chars first)
    rw [dropBlanks, List.dropWhile_cons_of_pos (by decide)]
    exact time
  have read : Pattern.read {} (datePattern ++ .blanks :: timePattern) t.sqlChars =
      some
        { year := t.date.year, month := t.date.month, day := t.date.day, hour := t.time.hour,
          minute := t.time.minute, second := t.time.shownSecond } := by
    have time := read_time t.time
      { year := t.date.year, month := t.date.month, day := t.date.day } [] startsNoDigit_nil
    rw [List.append_nil, List.append_nil] at time
    rw [Timestamp.sqlChars, read_date t.date {} _ blank, Pattern.read, PatternItem.read, gap]
    exact time
  have first : (datePattern ++ .blanks :: timePattern).timestamp? t.sqlChars = some t := by
    have shown := Reading.timestamp?_of_shown t
    rw [show t.time.shownNano = 0 from whole] at shown
    rw [Pattern.timestamp?, read, Option.bind_some, shown]
  rw [timestamp?, Timestamp.sqlText, String.toList_ofList, readTimestamp,
    Timestamp.dropZone_trimChars_sqlChars, timestampPatterns, List.findSome?_cons, first]

/-- The number of nanoseconds in a millisecond. -/
def nanosPerMilli : Nat := 1000000

/-- The shown fraction is less than a second. -/
theorem TimeOfDay.shownNano_lt (time : TimeOfDay) : time.shownNano < nanosPerSecond := by
  obtain ⟨hour, minute, second, nano, -, -, -, nanos⟩ := time
  simp only [shownNano, isLeap, decide_eq_true_eq]
  split <;> omega

/-- A time stays one when a part of its fraction is cut off. -/
theorem TimeOfDay.isTime_sub (time : TimeOfDay) (cut : Nat) :
    IsTime time.hour time.minute time.second (time.nano - cut) := by
  obtain ⟨hours, minutes, seconds, nanos⟩ := time.valid
  refine ⟨hours, minutes, seconds, ?_⟩
  omega

/-- The time without what it shows beyond the millisecond. -/
def TimeOfDay.toMilli (time : TimeOfDay) : TimeOfDay :=
  { time with
    nano := time.nano - time.shownNano % nanosPerMilli
    valid := time.isTime_sub _ }

/-- The moment without what is less than a millisecond. -/
def Timestamp.toMilli (t : Timestamp) : Timestamp :=
  { t with time := t.time.toMilli }

/-- Whether a timestamp falls on a millisecond. -/
def Timestamp.IsMilli (t : Timestamp) : Prop :=
  t.time.shownNano % nanosPerMilli = 0

instance (t : Timestamp) : Decidable t.IsMilli :=
  inferInstanceAs (Decidable (_ = _))

/-- A moment of whole milliseconds stays as it is. -/
theorem Timestamp.toMilli_of_isMilli {t : Timestamp} (exact : t.IsMilli) : t.toMilli = t := by
  obtain ⟨date, hour, minute, second, nano, valid⟩ := t
  simp only [IsMilli] at exact
  simp only [toMilli, TimeOfDay.toMilli, exact, Nat.sub_zero]

/-- Cutting below the second changes neither the leap second nor what the clock shows. -/
theorem TimeOfDay.shown_toMilli (time : TimeOfDay) :
    time.toMilli.shownSecond = time.shownSecond ∧
      time.toMilli.shownNano = time.shownNano / nanosPerMilli * nanosPerMilli := by
  obtain ⟨hour, minute, second, nano, valid⟩ := time
  by_cases leap : nanosPerSecond ≤ nano
  · have still : nanosPerSecond ≤ nano - (nano - nanosPerSecond) % nanosPerMilli := by
      have within := Nat.mod_le (nano - nanosPerSecond) nanosPerMilli
      omega
    simp only [toMilli, shownSecond, shownNano, isLeap, leap, still, decide_true, ↓reduceIte,
      true_and]
    simp only [nanosPerSecond, nanosPerMilli]
    omega
  · have still : ¬nanosPerSecond ≤ nano - nano % nanosPerMilli := by omega
    simp only [toMilli, shownSecond, shownNano, isLeap, leap, still, decide_false,
      Bool.false_eq_true, ↓reduceIte, true_and]
    simp only [nanosPerMilli]
    omega

/-- Three digits of a fraction are milliseconds. -/
theorem fractionNanos_padded {millis : Nat} (small : millis < 1000) :
    fractionNanos (padded 3 millis) = millis * nanosPerMilli := by
  have width : (padded 3 millis).length = 3 := length_padded (by decide) small
  have all : (padded 3 millis).take 9 = padded 3 millis :=
    List.take_of_length_le (by rw [width]; decide)
  simp only [fractionNanos, all, width, digitsValue_padded]
  rfl

/-- Three digits behind a dot are read as milliseconds. -/
theorem read_fraction (reading : Reading) {millis : Nat} (small : millis < 1000) :
    Pattern.read reading [.fraction] ('.' :: padded 3 millis) =
      some { reading with nano := millis * nanosPerMilli } := by
  have digits : readDigits none (padded 3 millis) = some (padded 3 millis, []) := by
    have read := readDigits_append (fun c => isDigit_of_mem_padded) (padded_ne_nil 3 millis)
      (fun limit (absent : limit ∈ none) => by cases absent) startsNoDigit_nil
    rwa [List.append_nil] at read
  simp only [Pattern.read, PatternItem.read, digits, Option.map_some, fractionNanos_padded small]

/-- The text for exchange without its zone. -/
def Timestamp.localChars (t : Timestamp) : List Char :=
  t.date.chars ++ 'T' :: t.time.chars ++ '.' :: padded 3 (t.time.shownNano / nanosPerMilli)

/-- The zone of a written moment is left out, and the local moment remains. -/
theorem Timestamp.dropZone_trimChars_isoChars (t : Timestamp) :
    dropZone (trimChars t.isoChars) = t.localChars := by
  have shape : t.isoChars = t.localChars ++ ['Z'] := by
    simp [Timestamp.isoChars, Timestamp.localChars, nanosPerMilli]
  have trimmed : trimChars t.isoChars = t.isoChars := by
    apply trimChars_of_ends
    · intro c first
      simp only [Timestamp.isoChars, Date.chars, List.append_assoc] at first
      exact isBlank_of_head?_yearChars first
    · intro c last
      rw [shape, List.getLast?_concat] at last
      cases last
      decide
  rw [trimmed, dropZone, shape, List.getLast?_concat, if_pos rfl, List.dropLast_concat]

/-- No number is read where a letter stands. -/
theorem read_time_of_letter (reading : Reading) (items : Pattern) (text : List Char) :
    Pattern.read reading (.blanks :: timePattern ++ items) ('T' :: text) = none := by
  have stays : dropBlanks ('T' :: text) = 'T' :: text :=
    dropBlanks_of_head fun c first => by
      cases first
      decide
  have noDigits : readPair ('T' :: text) = none := by
    simp [readPair, readDigits, List.takeWhile]
  simp only [timePattern, List.cons_append, List.nil_append, Pattern.read, PatternItem.read, stays,
    noDigits, Option.map_none]

/-- **Reading the text for exchange.** A timestamp is read back from it cut to milliseconds. -/
theorem timestamp?_isoText (t : Timestamp) : timestamp? t.isoText = some t.toMilli := by
  let point : List Char := '.' :: padded 3 (t.time.shownNano / nanosPerMilli)
  have letter (text : List Char) : StartsNoDigit ('T' :: text) := startsNoDigit_cons rfl text
  have dot : StartsNoDigit point := startsNoDigit_cons rfl _
  have whole : t.localChars = t.date.chars ++ 'T' :: (t.time.chars ++ point) := by
    simp [Timestamp.localChars, point]
  let shown : Reading :=
    { year := t.date.year, month := t.date.month, day := t.date.day, hour := t.time.hour,
      minute := t.time.minute, second := t.time.shownSecond }
  have blanks (items : Pattern) :
      Pattern.read {} (datePattern ++ (.blanks :: timePattern ++ items)) t.localChars = none := by
    rw [whole, read_date t.date {} _ (letter _), read_time_of_letter]
  have lettered (items : Pattern) :
      Pattern.read {} (datePattern ++ (.literal 'T' :: timePattern ++ items)) t.localChars =
        Pattern.read shown items point := by
    rw [whole, read_date t.date {} _ (letter _), List.cons_append, Pattern.read, PatternItem.read,
      if_pos rfl]
    exact read_time t.time _ items dot
  -- A blank does not stand for the letter, and the third pattern leaves the fraction.
  have first : (datePattern ++ .blanks :: timePattern).timestamp? t.localChars = none := by
    have read := blanks []
    rw [List.append_nil] at read
    rw [Pattern.timestamp?, read, Option.bind_none]
  have second : Pattern.timestamp? (datePattern ++ .blanks :: timePattern ++ [.fraction])
      t.localChars = none := by
    rw [Pattern.timestamp?, List.append_assoc, blanks, Option.bind_none]
  have third : (datePattern ++ .literal 'T' :: timePattern).timestamp? t.localChars = none := by
    have read := lettered []
    rw [List.append_nil] at read
    rw [Pattern.timestamp?, read]
    rfl
  have fourth : Pattern.timestamp? (datePattern ++ .literal 'T' :: timePattern ++ [.fraction])
      t.localChars = some t.toMilli := by
    have small : t.time.shownNano / nanosPerMilli < 1000 := by
      have bound := t.time.shownNano_lt
      simp only [nanosPerSecond] at bound
      simp only [nanosPerMilli]
      omega
    have cut := Reading.timestamp?_of_shown t.toMilli
    rw [Timestamp.toMilli, t.time.shown_toMilli.1, t.time.shown_toMilli.2] at cut
    rw [Pattern.timestamp?, List.append_assoc, lettered, read_fraction shown small,
      Option.bind_some]
    exact cut
  rw [timestamp?, Timestamp.isoText, String.toList_ofList, readTimestamp,
    Timestamp.dropZone_trimChars_isoChars, timestampPatterns, List.findSome?_cons, first,
    List.findSome?_cons, second, List.findSome?_cons, third, List.findSome?_cons, fourth]

end DataAccess.Calendar
