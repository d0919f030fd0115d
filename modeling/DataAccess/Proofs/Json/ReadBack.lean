import DataAccess.Json.Printer
import DataAccess.Json.Reader
import Mathlib.Data.List.TakeWhile
import Mathlib.Tactic.SplitIfs

/-!
# Reading printed documents

Every document that text can hold at all is read back from its printed form, however deep it is
nested and whatever its strings contain (`Json.read?_pretty`). The reader goes through printed text
piece by piece: what follows a document matters only where a word or number ends, so each piece is
read in front of any text that does not continue it (`Ends`).
-/

namespace DataAccess.Json

/-- A document that text can hold: its numbers are spelled as numbers, and its strings and keys are
texts. -/
inductive Written : Json → Prop where
  | null : Written .null
  | bool (value : Bool) : Written (.bool value)
  | number {lexeme : String} (valid : isNumber lexeme.toList = true) : Written (.number lexeme)
  | string (text : String) : Written (.string (some text))
  | array {items : List Json} (each : ∀ item ∈ items, Written item) : Written (.array items)
  | object {entries : List (Option String × Json)} (keys : ∀ entry ∈ entries, entry.1.isSome = true)
      (each : ∀ entry ∈ entries, Written entry.2) : Written (.object entries)

section Steps

variable {lexing next : LexState} {reading after : ReadState} {rest : List Char}

theorem steps_singleton (reading : ReadState) (token : Token) :
    reading.steps [token] = reading.step token := by
  rw [ReadState.steps]
  exact Option.bind_fun_some (reading.step token)

/-- Tokens after each other are taken one group after the other. -/
theorem steps_append (reading : ReadState) (front back : List Token) :
    reading.steps (front ++ back) = (reading.steps front).bind fun after => after.steps back := by
  induction front generalizing reading with
  | nil => rfl
  | cons token front ih =>
      rw [List.cons_append, ReadState.steps, ReadState.steps, Option.bind_assoc]
      exact congrArg _ (funext ih)

/-- Reading goes on behind a character with the tokens that it ends. -/
theorem readFrom_cons {c : Char} {tokens : List Token} (step : lexing.step c = some (next, tokens))
    (took : reading.steps tokens = some after) :
    readFrom lexing reading (c :: rest) = readFrom next after rest := by
  rw [readFrom, step]
  simp only [took]

/-- A character that ends no token changes the lexer only. -/
theorem readFrom_silent (next : LexState) {c : Char} (step : lexing.step c = some (next, [])) :
    readFrom lexing reading (c :: rest) = readFrom next reading rest :=
  readFrom_cons step rfl

/-- A character that ends one token hands it to the reader. -/
theorem readFrom_token (next : LexState) {c : Char} {token : Token}
    (step : lexing.step c = some (next, [token]))
    (took : reading.step token = some after) :
    readFrom lexing reading (c :: rest) = readFrom next after rest :=
  readFrom_cons step ((steps_singleton reading token).trans took)

/-- White space at the beginning of lines is skipped. -/
theorem readFrom_newLine (depth : Nat) :
    readFrom .idle reading (newLine depth ++ rest) = readFrom .idle reading rest := by
  have spaces (count : Nat) :
      readFrom .idle reading (List.replicate count ' ' ++ rest) = readFrom .idle reading rest := by
    induction count with
    | zero => rfl
    | succ count ih => exact (readFrom_silent .idle rfl).trans ih
  exact (readFrom_silent .idle rfl).trans (spaces (2 * depth))

/-- Characters that a state collects. -/
theorem readFrom_collect {state : List Char → LexState} {chars : List Char}
    (takes : ∀ c ∈ chars, ∀ taken, (state taken).step c = some (state (c :: taken), []))
    (taken : List Char) :
    readFrom (state taken) reading (chars ++ rest) =
      readFrom (state (chars.reverse ++ taken)) reading rest := by
  induction chars generalizing taken with
  | nil => rfl
  | cons c chars ih =>
      rw [List.cons_append, readFrom_silent _ (takes c List.mem_cons_self taken),
        ih fun other later => takes other (List.mem_cons_of_mem c later), List.reverse_cons,
        List.append_assoc, List.singleton_append]

/-- Text that neither continues a word nor a number. -/
def Ends (rest : List Char) : Prop :=
  ∀ c ∈ rest.head?, c.isLower = false ∧ isNumberChar c = false

theorem ends_nil : Ends [] := nofun

/-- Neither words nor numbers go on with such a character. -/
theorem ends_cons {c : Char} (notLower : c.isLower = false) (notNumber : isNumberChar c = false)
    (rest : List Char) : Ends (c :: rest) := by
  rintro _ ⟨⟩
  exact ⟨notLower, notNumber⟩

/-- A new line ends words and numbers. -/
theorem ends_newLine (depth : Nat) (rest : List Char) : Ends (newLine depth ++ rest) :=
  ends_cons (by decide) (by decide) _

/-- Where a word or number ends, its token is taken and the rest is read on its own. -/
theorem readFrom_pending {owed : List Token} (pending : lexing.pending? = some owed)
    (stops : ∀ c ∈ rest.head?, lexing.step c =
      (LexState.begin c).map fun begun => (begun.1, owed ++ begun.2))
    (took : reading.steps owed = some after) :
    readFrom lexing reading rest = readFrom .idle after rest := by
  cases rest with
  | nil =>
      rw [readFrom, readFrom, pending, Option.bind_some, took]
      rfl
  | cons c rest =>
      rw [readFrom, readFrom, stops c rfl, LexState.step]
      cases LexState.begin c with
      | none => rfl
      | some begun =>
          obtain ⟨next, tokens⟩ := begun
          simp only [Option.map_some, steps_append, took, Option.bind_some]

end Steps

section Strings

variable {reading after : ReadState} {rest : List Char}

/-- Four digits after a backslash spell a character that is no half of a pair. -/
theorem readFrom_unit {first second third fourth : Char} {a b c d : Nat} {taken : List Char}
    (firstDigit : Numeral.hexValue? first = some a)
    (secondDigit : Numeral.hexValue? second = some b)
    (thirdDigit : Numeral.hexValue? third = some c)
    (fourthDigit : Numeral.hexValue? fourth = some d)
    (plain : ((a * 16 + b) * 16 + c) * 16 + d < 0xD800) :
    readFrom (.string { chars := taken }) reading
        ('\\' :: 'u' :: first :: second :: third :: fourth :: rest) =
      readFrom (.string { chars := Char.ofNat (((a * 16 + b) * 16 + c) * 16 + d) :: taken })
        reading rest := by
  have put : StringPart.putUnit { chars := taken } (((a * 16 + b) * 16 + c) * 16 + d) =
      { chars := Char.ofNat (((a * 16 + b) * 16 + c) * 16 + d) :: taken } := by
    rw [StringPart.putUnit, if_neg (by omega), if_neg (by omega)]
    rfl
  rw [readFrom_silent (.escape { chars := taken }) rfl,
    readFrom_silent (.unit { chars := taken } 4 0) rfl,
    readFrom_silent (.unit { chars := taken } 3 a)
      (by simp [LexState.step, firstDigit]),
    readFrom_silent (.unit { chars := taken } 2 (a * 16 + b))
      (by simp [LexState.step, secondDigit]),
    readFrom_silent (.unit { chars := taken } 1 ((a * 16 + b) * 16 + c))
      (by simp [LexState.step, thirdDigit])]
  refine readFrom_silent _ ?_
  simp [LexState.step, fourthDigit, put]

/-- The four hexadecimal digits of a control character. -/
theorem hexValues_control : ∀ n < 32,
    (Numeral.hexDigits 4 n).map Numeral.hexValue? =
      [some 0, some 0, some (n / 16), some (n % 16)] := by decide

/-- A control character is read from its escape. -/
theorem readFrom_unicodeEscape {c : Char} (control : c.toNat < 32) (taken : List Char) :
    readFrom (.string { chars := taken }) reading (unicodeEscape c ++ rest) =
      readFrom (.string { chars := c :: taken }) reading rest := by
  obtain ⟨first, later, digits, firstDigit, values⟩ :=
    List.map_eq_cons_iff.mp (hexValues_control c.toNat control)
  obtain ⟨second, later, rfl, secondDigit, values⟩ := List.map_eq_cons_iff.mp values
  obtain ⟨third, later, rfl, thirdDigit, values⟩ := List.map_eq_cons_iff.mp values
  obtain ⟨fourth, later, rfl, fourthDigit, values⟩ := List.map_eq_cons_iff.mp values
  obtain rfl := List.map_eq_nil_iff.mp values
  have value : ((0 * 16 + 0) * 16 + c.toNat / 16) * 16 + c.toNat % 16 = c.toNat := by omega
  rw [unicodeEscape, digits]
  refine (readFrom_unit firstDigit secondDigit thirdDigit fourthDigit (by omega)).trans ?_
  rw [value, Char.ofNat_toNat]
  rfl

/-- A character of a string is read back, whether it stands for itself or is escaped. -/
theorem readFrom_escapeChar (c : Char) (taken : List Char) :
    readFrom (.string { chars := taken }) reading (escapeChar c ++ rest) =
      readFrom (.string { chars := c :: taken }) reading rest := by
  have short {letter plain : Char} (start : letter ≠ 'u') (escaped : escaped? letter = some plain) :
      readFrom (.string { chars := taken }) reading (['\\', letter] ++ rest) =
        readFrom (.string { chars := plain :: taken }) reading rest := by
    refine (readFrom_silent (.escape { chars := taken }) rfl).trans (readFrom_silent _ ?_)
    rw [LexState.step, if_neg start, escaped]
    rfl
  rw [escapeChar]
  split_ifs with quote backslash backspace feed line carriage tab control
  · subst quote
    exact short (by decide) rfl
  · subst backslash
    exact short (by decide) rfl
  · subst backspace
    exact short (by decide) rfl
  · subst feed
    exact short (by decide) rfl
  · subst line
    exact short (by decide) rfl
  · subst carriage
    exact short (by decide) rfl
  · subst tab
    exact short (by decide) rfl
  · exact readFrom_unicodeEscape control taken
  · refine readFrom_silent _ ?_
    rw [LexState.step, if_neg quote, if_neg backslash, if_neg control]
    rfl

/-- Characters are read from how they stand in a string. -/
theorem readFrom_escaped (chars taken : List Char) :
    readFrom (.string { chars := taken }) reading (chars.flatMap escapeChar ++ rest) =
      readFrom (.string { chars := chars.reverse ++ taken }) reading rest := by
  induction chars generalizing taken with
  | nil => rfl
  | cons c chars ih =>
      rw [List.flatMap_cons, List.append_assoc, readFrom_escapeChar, ih, List.reverse_cons,
        List.append_assoc, List.singleton_append]

/-- A string is read as its text. -/
theorem readFrom_stringChars {text : String}
    (took : reading.step (.scalar (.string (some text))) = some after) :
    readFrom .idle reading (stringChars text ++ rest) = readFrom .idle after rest := by
  have spelled : StringPart.text? { chars := text.toList.reverse } = some text := by
    rw [StringPart.text?, List.reverse_reverse, String.ofList_toList]
    rfl
  rw [stringChars, List.cons_append, readFrom_silent (.string {}) rfl, List.append_assoc,
    readFrom_escaped, List.append_nil]
  refine readFrom_token .idle ?_ took
  rw [LexState.step, if_pos rfl, spelled]

end Strings

section Scalars

variable {reading after : ReadState} {rest : List Char}

/-- A word or number is collected up to its end. -/
theorem readFrom_collected (state : List Char → LexState) {first : Char} {chars : List Char}
    {token : Token} (begins : LexState.step .idle first = some (state [first], []))
    (takes : ∀ c ∈ chars, ∀ taken, (state taken).step c = some (state (c :: taken), []))
    (pending : (state (first :: chars).reverse).pending? = some [token])
    (stops : ∀ c ∈ rest.head?, (state (first :: chars).reverse).step c =
      (LexState.begin c).map fun begun => (begun.1, [token] ++ begun.2))
    (took : reading.step token = some after) :
    readFrom .idle reading (first :: chars ++ rest) = readFrom .idle after rest := by
  rw [List.reverse_cons] at pending stops
  rw [List.cons_append, readFrom_silent (state [first]) begins, readFrom_collect takes]
  exact readFrom_pending pending stops ((steps_singleton reading token).trans took)

/-- A word is read up to where it ends. -/
theorem readFrom_word {first : Char} {letters : List Char} {value : Json}
    (begins : LexState.step .idle first = some (.word [first], []))
    (lower : letters.all Char.isLower = true) (word : word? (first :: letters) = some value)
    (ends : Ends rest) (took : reading.step (.scalar value) = some after) :
    readFrom .idle reading (first :: letters ++ rest) = readFrom .idle after rest := by
  have pending : LexState.pending? (.word (first :: letters).reverse) = some [.scalar value] := by
    rw [LexState.pending?, List.reverse_reverse, word, Option.map_some]
  refine readFrom_collected .word begins (fun c member taken => ?_) pending (fun c here => ?_) took
  · rw [LexState.step, if_pos (List.all_eq_true.mp lower c member)]
  · have notLower : ¬ c.isLower = true := by
      rw [(ends c here).1]
      exact Bool.false_ne_true
    rw [LexState.step, if_neg notLower, pending]
    cases LexState.begin c <;> rfl

/-- Numbers have digits. -/
theorem isNumberChar_of_isDigit {c : Char} (digit : c.isDigit = true) : isNumberChar c = true := by
  simp [isNumberChar, digit]

/-- Numbers have exponents. -/
theorem isNumberChar_of_isExponent {chars : List Char} (valid : isExponent chars = true) :
    ∀ c ∈ chars, isNumberChar c = true := by
  cases chars with
  | nil => nofun
  | cons letter rest =>
      simp only [isExponent, Bool.and_eq_true, Bool.or_eq_true, decide_eq_true_eq,
        List.all_eq_true] at valid
      obtain ⟨⟨letters, -⟩, digits⟩ := valid
      have start : isNumberChar letter = true := by
        rcases letters with rfl | rfl <;> rfl
      have signs : isNumberChar '+' = true ∧ isNumberChar '-' = true := ⟨rfl, rfl⟩
      refine List.forall_mem_cons.mpr ⟨start, ?_⟩
      split at digits
      · exact List.forall_mem_cons.mpr
          ⟨signs.1, fun c member => isNumberChar_of_isDigit (digits c member)⟩
      · exact List.forall_mem_cons.mpr
          ⟨signs.2, fun c member => isNumberChar_of_isDigit (digits c member)⟩
      · exact fun c member => isNumberChar_of_isDigit (digits c member)

/-- Digits in front of other characters of a number. -/
theorem isNumberChar_of_digits {chars : List Char}
    (behind : ∀ c ∈ chars.dropWhile Char.isDigit, isNumberChar c = true) :
    ∀ c ∈ chars, isNumberChar c = true := by
  intro c member
  rw [← List.takeWhile_append_dropWhile (p := Char.isDigit) (l := chars)] at member
  rcases List.mem_append.mp member with digit | later
  · exact isNumberChar_of_isDigit (List.mem_takeWhile_imp digit)
  · exact behind c later

/-- Numbers have fractions. -/
theorem isNumberChar_of_isFraction {chars : List Char} (valid : isFraction chars = true) :
    ∀ c ∈ chars, isNumberChar c = true := by
  unfold isFraction at valid
  split at valid
  · obtain ⟨-, exponent⟩ := Bool.and_eq_true_iff.mp valid
    exact List.forall_mem_cons.mpr
      ⟨rfl, isNumberChar_of_digits (isNumberChar_of_isExponent exponent)⟩
  · exact isNumberChar_of_isExponent valid

/-- What a number without a sign starts with and consists of. -/
theorem chars_of_unsigned {chars : List Char}
    (whole : isWhole (chars.takeWhile Char.isDigit) = true)
    (fraction : isFraction (chars.dropWhile Char.isDigit) = true) :
    (∃ first rest, chars = first :: rest ∧ first.isDigit = true) ∧
      ∀ c ∈ chars, isNumberChar c = true := by
  refine ⟨?_, isNumberChar_of_digits (isNumberChar_of_isFraction fraction)⟩
  cases chars with
  | nil => cases whole
  | cons first rest =>
      refine ⟨first, rest, rfl, ?_⟩
      cases digit : first.isDigit with
      | true => rfl
      | false =>
          rw [List.takeWhile_cons, digit, if_neg Bool.false_ne_true] at whole
          cases whole

/-- A number begins with a digit or a sign and goes on with characters of numbers. -/
theorem chars_of_isNumber {lexeme : List Char} (valid : isNumber lexeme = true) :
    ∃ first rest, lexeme = first :: rest ∧ (first.isDigit = true ∨ first = '-') ∧
      ∀ c ∈ rest, isNumberChar c = true := by
  unfold isNumber at valid
  split at valid
  · obtain ⟨whole, fraction⟩ := Bool.and_eq_true_iff.mp valid
    exact ⟨'-', _, rfl, Or.inr rfl, (chars_of_unsigned whole fraction).2⟩
  · obtain ⟨whole, fraction⟩ := Bool.and_eq_true_iff.mp valid
    obtain ⟨⟨first, rest, rfl, digit⟩, numberChars⟩ := chars_of_unsigned whole fraction
    exact ⟨first, rest, rfl, Or.inl digit, (List.forall_mem_cons.mp numberChars).2⟩

/-- A number is read up to where it ends. -/
theorem readFrom_number {lexeme : String} (valid : isNumber lexeme.toList = true)
    (ends : Ends rest) (took : reading.step (.scalar (.number lexeme)) = some after) :
    readFrom .idle reading (lexeme.toList ++ rest) = readFrom .idle after rest := by
  obtain ⟨first, chars, split, start, numberChars⟩ := chars_of_isNumber valid
  have pending : LexState.pending? (.number (first :: chars).reverse) =
      some [.scalar (.number lexeme)] := by
    rw [LexState.pending?, List.reverse_reverse, ← split, if_pos valid, String.ofList_toList]
  have begins : LexState.step .idle first = some (.number [first], []) := by
    rcases start with digit | rfl
    · have noGap : isGap first = false := by
        simp only [isGap, Bool.or_eq_false_iff, decide_eq_false_iff_not]
        refine ⟨⟨⟨?_, ?_⟩, ?_⟩, ?_⟩ <;> rintro rfl <;> cases digit
      have noQuote : first ≠ '"' := by
        rintro rfl
        cases digit
      rw [LexState.step, LexState.begin, noGap, if_neg Bool.false_ne_true, if_neg noQuote, digit,
        Bool.true_or, if_pos rfl]
    · rfl
  rw [split]
  refine readFrom_collected .number begins (fun c member taken => ?_) pending (fun c here => ?_)
    took
  · rw [LexState.step, if_pos (numberChars c member)]
  · have notNumber : ¬ isNumberChar c = true := by
      rw [(ends c here).2]
      exact Bool.false_ne_true
    rw [LexState.step, if_neg notNumber, pending]
    cases LexState.begin c <;> rfl

end Scalars

/-- Whether a value may come next. -/
def ReadState.AwaitsValue (reading : ReadState) : Prop :=
  reading.expected = .value ∨ reading.expected = .itemOrEnd

/-- Where a value is awaited, a token begins one. -/
theorem ReadState.AwaitsValue.step {reading : ReadState} (awaits : reading.AwaitsValue)
    {token : Token} (opens : token ≠ .closeBracket) :
    reading.step token = ReadState.startValue reading.stack token := by
  obtain ⟨stack, expected, document⟩ := reading
  rcases awaits with rfl | rfl
  · rfl
  · cases token with
    | closeBracket => exact absurd rfl opens
    | _ => rfl

/-- Printed at any depth, where a value may come next, a document is read as this value. -/
def ReadsBack (document : Json) : Prop :=
  ∀ (depth : Nat) (reading : ReadState) (rest : List Char), reading.AwaitsValue → Ends rest →
    readFrom .idle reading (prettyChars depth document ++ rest) =
      readFrom .idle (.complete document reading.stack) rest

/-- A value of one token is read back where this token is. -/
theorem ReadsBack.scalar {value : Json} {chars : List Char}
    (printed : ∀ depth, prettyChars depth value = chars)
    (each : ∀ {reading after : ReadState} {rest : List Char}, Ends rest →
      reading.step (.scalar value) = some after →
        readFrom .idle reading (chars ++ rest) = readFrom .idle after rest) :
    ReadsBack value := by
  intro depth reading rest awaits ends
  rw [printed depth]
  exact each ends (awaits.step nofun)

section Containers

variable {outer : List Frame} {rest : List Char}

/-- The items of an array end words and numbers. -/
theorem ends_prettyItems (depth : Nat) (items : List Json) (ends : Ends rest) :
    Ends (prettyItems depth items ++ rest) := by
  cases items with
  | nil => exact ends
  | cons item items => exact ends_cons (by decide) (by decide) _

/-- The entries of an object end words and numbers. -/
theorem ends_prettyEntries (depth : Nat) (entries : List (Option String × Json))
    (ends : Ends rest) : Ends (prettyEntries depth entries ++ rest) := by
  cases entries with
  | nil => exact ends
  | cons entry entries => exact ends_cons (by decide) (by decide) _

/-- The items behind the first one. -/
theorem readFrom_prettyItems {items : List Json} (each : ∀ item ∈ items, ReadsBack item)
    (depth : Nat) (taken : List Json) (ends : Ends rest) :
    readFrom .idle { stack := .array taken :: outer, expected := .commaOrEnd }
        (prettyItems depth items ++ rest) =
      readFrom .idle { stack := .array (items.reverse ++ taken) :: outer, expected := .commaOrEnd }
        rest := by
  induction items generalizing taken with
  | nil => rfl
  | cons item items ih =>
      have comma : ReadState.step { stack := .array taken :: outer, expected := .commaOrEnd }
          .comma = some { stack := .array taken :: outer, expected := .value } := rfl
      rw [prettyItems, List.cons_append, readFrom_token .idle rfl comma, List.append_assoc,
        List.append_assoc, readFrom_newLine,
        each item List.mem_cons_self depth { stack := .array taken :: outer } _ (Or.inl rfl)
          (ends_prettyItems depth items ends),
        ReadState.complete, ih fun other later => each other (List.mem_cons_of_mem item later),
        List.reverse_cons, List.append_assoc, List.singleton_append]

/-- An array is read back where its items are. -/
theorem ReadsBack.array {items : List Json} (each : ∀ item ∈ items, ReadsBack item) :
    ReadsBack (.array items) := by
  intro depth reading rest awaits ends
  have opened : reading.step .openBracket =
      some { stack := .array [] :: reading.stack, expected := .itemOrEnd } := awaits.step nofun
  cases items with
  | nil =>
      have closed : ReadState.step
          { stack := .array [] :: reading.stack, expected := .itemOrEnd } .closeBracket =
          some (.complete (.array []) reading.stack) := rfl
      exact (readFrom_token .idle rfl opened).trans (readFrom_token .idle rfl closed)
  | cons item items =>
      have closed : ReadState.step
          { stack := .array (items.reverse ++ [item]) :: reading.stack, expected := .commaOrEnd }
          .closeBracket = some (.complete (.array (item :: items)) reading.stack) := by
        rw [← List.reverse_cons]
        exact congrArg (fun all => some (ReadState.complete (.array all) reading.stack))
          (List.reverse_reverse _)
      have stops : Ends (newLine depth ++ ([']'] ++ rest)) := ends_newLine depth (']' :: rest)
      rw [prettyChars, List.cons_append, readFrom_token .idle rfl opened]
      simp only [List.append_assoc]
      rw [readFrom_newLine,
        each item List.mem_cons_self (depth + 1)
          { stack := .array [] :: reading.stack, expected := .itemOrEnd } _ (Or.inr rfl)
          (ends_prettyItems (depth + 1) items stops),
        ReadState.complete,
        readFrom_prettyItems (fun other later => each other (List.mem_cons_of_mem item later))
          (depth + 1) [item] stops,
        readFrom_newLine]
      exact readFrom_token .idle rfl closed

/-- An entry, where a key may come next. -/
theorem readFrom_prettyEntry {entry : Option String × Json} (keyed : entry.1.isSome = true)
    (value : ReadsBack entry.2) {expected : Expected}
    (awaits : expected = .key ∨ expected = .keyOrEnd) (depth : Nat)
    (taken : List (Option String × Json)) (ends : Ends rest) :
    readFrom .idle { stack := .object taken none :: outer, expected }
        (prettyEntry depth entry ++ rest) =
      readFrom .idle { stack := .object (entry :: taken) none :: outer, expected := .commaOrEnd }
        rest := by
  obtain ⟨key, value⟩ := entry
  obtain ⟨name, rfl⟩ := Option.isSome_iff_exists.mp keyed
  have named : ReadState.step { stack := .object taken none :: outer, expected }
      (.scalar (.string (some name))) =
      some { stack := .object taken (some name) :: outer, expected := .colon } := by
    rcases awaits with rfl | rfl <;> rfl
  have colon : ReadState.step
      { stack := .object taken (some name) :: outer, expected := .colon } .colon =
      some { stack := .object taken (some name) :: outer, expected := .value } := rfl
  rw [prettyEntry, Option.getD_some, List.append_assoc, readFrom_stringChars named,
    List.cons_append, readFrom_token .idle rfl colon, List.cons_append,
    readFrom_silent .idle rfl]
  exact value depth { stack := .object taken (some name) :: outer } rest (Or.inl rfl) ends

/-- The entries behind the first one. -/
theorem readFrom_prettyEntries {entries : List (Option String × Json)}
    (keys : ∀ entry ∈ entries, entry.1.isSome = true)
    (each : ∀ entry ∈ entries, ReadsBack entry.2) (depth : Nat)
    (taken : List (Option String × Json)) (ends : Ends rest) :
    readFrom .idle { stack := .object taken none :: outer, expected := .commaOrEnd }
        (prettyEntries depth entries ++ rest) =
      readFrom .idle
        { stack := .object (entries.reverse ++ taken) none :: outer, expected := .commaOrEnd }
        rest := by
  induction entries generalizing taken with
  | nil => rfl
  | cons entry entries ih =>
      have comma : ReadState.step { stack := .object taken none :: outer, expected := .commaOrEnd }
          .comma = some { stack := .object taken none :: outer, expected := .key } := rfl
      rw [prettyEntries, List.cons_append, readFrom_token .idle rfl comma, List.append_assoc,
        List.append_assoc, readFrom_newLine,
        readFrom_prettyEntry (keys entry List.mem_cons_self) (each entry List.mem_cons_self)
          (Or.inl rfl) depth taken (ends_prettyEntries depth entries ends),
        ih (fun other later => keys other (List.mem_cons_of_mem entry later))
          (fun other later => each other (List.mem_cons_of_mem entry later)),
        List.reverse_cons, List.append_assoc, List.singleton_append]

/-- An object is read back where its keys are valid and its values are read back. -/
theorem ReadsBack.object {entries : List (Option String × Json)}
    (keys : ∀ entry ∈ entries, entry.1.isSome = true)
    (each : ∀ entry ∈ entries, ReadsBack entry.2) : ReadsBack (.object entries) := by
  intro depth reading rest awaits ends
  have opened : reading.step .openBrace =
      some { stack := .object [] none :: reading.stack, expected := .keyOrEnd } :=
    awaits.step nofun
  cases entries with
  | nil =>
      have closed : ReadState.step
          { stack := .object [] none :: reading.stack, expected := .keyOrEnd } .closeBrace =
          some (.complete (.object []) reading.stack) := rfl
      exact (readFrom_token .idle rfl opened).trans (readFrom_token .idle rfl closed)
  | cons entry entries =>
      have closed : ReadState.step
          { stack := .object (entries.reverse ++ [entry]) none :: reading.stack,
            expected := .commaOrEnd } .closeBrace =
          some (.complete (.object (entry :: entries)) reading.stack) := by
        rw [← List.reverse_cons]
        exact congrArg (fun all => some (ReadState.complete (.object all) reading.stack))
          (List.reverse_reverse _)
      have stops : Ends (newLine depth ++ (['\x7d'] ++ rest)) :=
        ends_newLine depth ('\x7d' :: rest)
      rw [prettyChars, List.cons_append, readFrom_token .idle rfl opened]
      simp only [List.append_assoc]
      rw [readFrom_newLine,
        readFrom_prettyEntry (keys entry List.mem_cons_self) (each entry List.mem_cons_self)
          (Or.inr rfl) (depth + 1) [] (ends_prettyEntries (depth + 1) entries stops),
        readFrom_prettyEntries (fun other later => keys other (List.mem_cons_of_mem entry later))
          (fun other later => each other (List.mem_cons_of_mem entry later)) (depth + 1) [entry]
          stops,
        readFrom_newLine]
      exact readFrom_token .idle rfl closed

end Containers

/-- Every document that text can hold is read back from inside any text. -/
theorem Written.readsBack {document : Json} (written : Written document) : ReadsBack document := by
  induction written with
  | null => exact .scalar (fun _ => rfl) (readFrom_word rfl rfl rfl)
  | bool value =>
      cases value with
      | true => exact .scalar (fun _ => rfl) (readFrom_word rfl rfl rfl)
      | false => exact .scalar (fun _ => rfl) (readFrom_word rfl rfl rfl)
  | number valid => exact .scalar (fun _ => rfl) (readFrom_number valid)
  | string text => exact .scalar (fun _ => rfl) fun _ => readFrom_stringChars
  | array _ each => exact .array each
  | object keys _ each => exact .object keys each

/-- **A printed document is read back.** -/
theorem read?_pretty {document : Json} (written : Written document) :
    read? document.pretty = some document := by
  have whole := written.readsBack 0 {} [] (Or.inl rfl) ends_nil
  rw [List.append_nil] at whole
  rw [read?, pretty, String.toList_ofList, whole]
  rfl

end DataAccess.Json
