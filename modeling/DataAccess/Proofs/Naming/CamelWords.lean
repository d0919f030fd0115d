import DataAccess.Proofs.Naming.LegalIdentifiers

/-!
# Words run together

The words of an identifier that were run together are told apart by their capitals. A conversion
leaves such a text as it is exactly if no two capitals stand side by side in front of every
lower-case letter (`camel_camel_eq_iff`), which is so for whatever has no underscores
(`crowdsCapitals_camelFrom`).
-/

namespace DataAccess.Naming

open Text

/-- Whether two capitals stand side by side and no lower-case letter in front of them. -/
def crowdsCapitals : List Char → Bool
  | first :: second :: rest =>
    !first.isLower && (first.isUpper && second.isUpper || crowdsCapitals (second :: rest))
  | _ => false

/-- The letters that a conversion leaves as they are, by whether the next letter is to be a capital
and whether a lower-case letter went before. -/
def keepsLetters : Bool → Bool → List Char → Bool
  | _, _, [] => true
  | capital, lower, c :: rest =>
    if c.isDigit then keepsLetters true lower rest
    else if c.isUpper then (capital || lower) && keepsLetters false lower rest
    else !capital && keepsLetters false true rest

/-- Whether the first letter of every word is a capital, where words start behind digits. -/
def startsCapitals : Bool → List Char → Bool
  | _, [] => true
  | capital, c :: rest =>
    if c.isDigit then startsCapitals true rest
    else (!capital || c.isUpper) && startsCapitals false rest

/-- The letters and digits of a text. -/
def IsWord (text : List Char) : Prop :=
  ∀ c ∈ text, isIdentifierChar c = true ∧ isSeparator c = false

variable {text : List Char} {state : CamelState}

theorem camelFrom_eq_self_iff_keepsLetters (word : IsWord text) (ascii : state.last.toNat < 128) :
    camelFrom state text = text ↔ keepsLetters state.capital state.last.isLower text = true := by
  induction text generalizing state with
  | nil => exact ⟨fun _ => rfl, fun _ => rfl⟩
  | cons c rest ih =>
      obtain ⟨⟨char, inWord⟩, others⟩ := List.forall_mem_cons.mp word
      have own := toNat_lt_of_isIdentifierChar char
      rw [camelFrom, inWord, if_neg Bool.false_ne_true, isNumeric_eq char, keepsLetters,
        CamelState.capitalizes, isLowerCase_of_ascii ascii, isUpperCase_of_ascii own]
      cases isWordChar char (ne_underscore_of_not_isSeparator inWord) with
      | digit isDigit =>
          rw [if_pos isDigit, if_pos isDigit, List.cons_inj_right]
          exact ih others ascii
      | capital noDigit isCapital noLower =>
          have upper := (toUpper_eq_self_iff char).mpr noLower
          have lower : c.toLower ≠ c := fun same =>
            Bool.false_ne_true (((toLower_eq_self_iff char).mp same).symm.trans isCapital)
          rw [noDigit, isCapital, Bool.and_true, if_neg Bool.false_ne_true,
            if_neg Bool.false_ne_true, if_pos rfl, Bool.and_eq_true]
          cases state.capital || state.last.isLower with
          | true =>
              have later := @ih { state with capital := false, started := true } others ascii
              simpa [upper] using later
          | false => simp [lower]
      | lower noDigit noCapital isLower =>
          have lower := (toLower_eq_self_iff char).mpr noCapital
          have upper : c.toUpper ≠ c := fun same =>
            Bool.false_ne_true (((toUpper_eq_self_iff char).mp same).symm.trans isLower)
          rw [noDigit, noCapital, Bool.and_false, Bool.or_false, if_neg Bool.false_ne_true,
            if_neg Bool.false_ne_true, if_neg Bool.false_ne_true, Bool.and_eq_true]
          cases capital : state.capital with
          | true => simp [upper]
          | false =>
              have later :=
                @ih { state with capital := false, started := true, last := c } others own
              rw [isLower] at later
              simpa [lower, capital] using later

theorem isWord_camelFrom (chars : IsIdentifier text) : IsWord (camelFrom state text) := by
  have plain {c : Char} (char : isIdentifierChar c = true) (plain : c ≠ '_') :
      isIdentifierChar c = true ∧ isSeparator c = false :=
    ⟨char, by rw [isSeparator_eq_beq char, beq_eq_false_iff_ne.mpr plain]⟩
  induction text generalizing state with
  | nil => nofun
  | cons c rest ih =>
      obtain ⟨char, others⟩ := List.forall_mem_cons.mp chars
      rw [camelFrom]
      cases inWord : isSeparator c with
      | true => exact ih others
      | false =>
          have noUnderscore := ne_underscore_of_not_isSeparator inWord
          rw [if_neg Bool.false_ne_true]
          split
          · exact List.forall_mem_cons.mpr ⟨⟨char, inWord⟩, ih others⟩
          split
          · exact List.forall_mem_cons.mpr ⟨plain (isIdentifierChar_toUpper char)
              (toUpper_ne_underscore char noUnderscore), ih others⟩
          · exact List.forall_mem_cons.mpr ⟨plain (isIdentifierChar_toLower char)
              (toLower_ne_underscore char noUnderscore), ih others⟩

/-- A conversion starts every word with a capital. -/
theorem startsCapitals_camelFrom (chars : IsIdentifier text) {capital : Bool}
    (sooner : capital = true → state.capital = true) :
    startsCapitals capital (camelFrom state text) = true := by
  induction text generalizing state capital with
  | nil => rfl
  | cons c rest ih =>
      obtain ⟨char, others⟩ := List.forall_mem_cons.mp chars
      rw [camelFrom]
      cases inWord : isSeparator c with
      | true =>
          refine ih others fun due => ?_
          split
          · rfl
          · exact sooner due
      | false =>
          have noUnderscore := ne_underscore_of_not_isSeparator inWord
          rw [if_neg Bool.false_ne_true, isNumeric_eq char]
          cases digit : c.isDigit with
          | true =>
              rw [if_pos rfl, startsCapitals, if_pos digit]
              exact ih others fun _ => rfl
          | false =>
              have later (state : CamelState) :
                  startsCapitals false (camelFrom state rest) = true :=
                ih others fun due => absurd due Bool.false_ne_true
              rw [if_neg Bool.false_ne_true]
              cases capitalizes : state.capitalizes c with
              | true =>
                  obtain ⟨isCapital, -⟩ := isUpper_toUpper char noUnderscore digit
                  rw [if_pos rfl, startsCapitals, isDigit_toUpper char, digit,
                    if_neg Bool.false_ne_true, isCapital, Bool.or_true, Bool.true_and, later]
              | false =>
                  have notDue : capital = false := by
                    rw [CamelState.capitalizes, Bool.or_eq_false_iff] at capitalizes
                    by_contra due
                    rw [sooner ((Bool.not_eq_false _).mp due)] at capitalizes
                    cases capitalizes.1
                  rw [if_neg Bool.false_ne_true, startsCapitals, isDigit_toLower char, digit,
                    if_neg Bool.false_ne_true, notDue, Bool.not_false, Bool.true_or, Bool.true_and,
                    later]

/-- Behind a lower-case letter all letters are left as they are. -/
theorem keepsLetters_of_lower (word : IsWord text) {capital : Bool}
    (starts : startsCapitals capital text = true) : keepsLetters capital true text = true := by
  induction text generalizing capital with
  | nil => rfl
  | cons c rest ih =>
      obtain ⟨⟨char, inWord⟩, others⟩ := List.forall_mem_cons.mp word
      rw [startsCapitals] at starts
      rw [keepsLetters]
      cases isWordChar char (ne_underscore_of_not_isSeparator inWord) with
      | digit isDigit =>
          rw [if_pos isDigit] at starts ⊢
          exact ih others starts
      | capital noDigit isCapital =>
          simp only [noDigit, isCapital, Bool.false_eq_true, ↓reduceIte, Bool.or_true,
            Bool.true_and] at starts ⊢
          exact ih others starts
      | lower noDigit noCapital =>
          simp only [noDigit, noCapital, Bool.false_eq_true, ↓reduceIte, Bool.or_false,
            Bool.and_eq_true] at starts ⊢
          exact ⟨starts.1, ih others starts.2⟩

/-- In front of every lower-case letter, capitals are left where they stand alone. -/
theorem keepsLetters_eq (word : IsWord text) {before : Char} (noLower : before.isLower = false)
    (starts : startsCapitals (!before.isUpper) text = true) :
    keepsLetters (!before.isUpper) false text = !crowdsCapitals (before :: text) := by
  induction text generalizing before with
  | nil => rfl
  | cons c rest ih =>
      obtain ⟨⟨char, inWord⟩, others⟩ := List.forall_mem_cons.mp word
      rw [startsCapitals] at starts
      rw [keepsLetters, crowdsCapitals, noLower, Bool.not_false, Bool.true_and]
      cases isWordChar char (ne_underscore_of_not_isSeparator inWord) with
      | digit isDigit noCapital noLower =>
          have later := @ih others c noLower
          rw [noCapital, Bool.not_false] at later
          rw [if_pos isDigit] at starts ⊢
          rw [later starts, noCapital, Bool.and_false, Bool.false_or]
      | capital noDigit isCapital noLower =>
          have later := @ih others c noLower
          rw [isCapital, Bool.not_true] at later
          simp only [noDigit, isCapital, Bool.false_eq_true, ↓reduceIte, Bool.or_true,
            Bool.true_and] at starts
          rw [noDigit, if_neg Bool.false_ne_true, if_pos isCapital, later starts, isCapital,
            Bool.and_true, Bool.or_false, Bool.not_or]
      | lower noDigit noCapital isLower =>
          simp only [noDigit, noCapital, Bool.false_eq_true, ↓reduceIte, Bool.or_false,
            Bool.and_eq_true] at starts
          have clear : crowdsCapitals (c :: rest) = false := by
            cases rest with
            | nil => rfl
            | cons d rest => simp [crowdsCapitals, isLower]
          rw [noDigit, if_neg Bool.false_ne_true, noCapital, if_neg Bool.false_ne_true, starts.1,
            keepsLetters_of_lower others starts.2, Bool.and_false, clear]
          rfl

/-- Without a capital to start with, a conversion starts with a digit or a lower-case letter. -/
theorem head?_camelFrom_noCapital (chars : IsIdentifier text) (capital : state.capital = false)
    (fresh : state.started = false) (last : isLowerCase state.last = false) :
    ∀ c ∈ (camelFrom state text).head?, c.isUpper = false := by
  induction text with
  | nil => nofun
  | cons c rest ih =>
      obtain ⟨char, others⟩ := List.forall_mem_cons.mp chars
      rw [camelFrom]
      cases inWord : isSeparator c with
      | true =>
          rw [if_pos rfl, fresh, if_neg Bool.false_ne_true]
          exact ih others
      | false =>
          rw [if_neg Bool.false_ne_true, isNumeric_eq char, CamelState.capitalizes, capital, last]
          cases digit : c.isDigit with
          | true =>
              rintro _ ⟨⟩
              exact isUpper_of_isDigit char digit
          | false =>
              rintro _ ⟨⟩
              exact (isLower_toLower char (ne_underscore_of_not_isSeparator inWord) digit).2

/-- What holds no underscores never comes to crowd its capitals, behind a character of the same
case as the state of the conversion. -/
theorem crowdsCapitals_camelFrom (word : IsWord text) {before : Char}
    (apart : before.isUpper = true → state.capital = false)
    (last : isLowerCase state.last = false) :
    crowdsCapitals (before :: camelFrom state text) = false := by
  induction text generalizing state before with
  | nil => rfl
  | cons c rest ih =>
      obtain ⟨⟨char, inWord⟩, others⟩ := List.forall_mem_cons.mp word
      have noUnderscore := ne_underscore_of_not_isSeparator inWord
      have step {d : Char} {tail : List Char} (alone : (before.isUpper && d.isUpper) = false)
          (later : crowdsCapitals (d :: tail) = false) :
          crowdsCapitals (before :: d :: tail) = false := by
        rw [crowdsCapitals, alone, later, Bool.or_false, Bool.and_false]
      rw [camelFrom, inWord, if_neg Bool.false_ne_true, isNumeric_eq char, CamelState.capitalizes,
        last, Bool.false_and, Bool.or_false]
      cases digit : c.isDigit with
      | true =>
          have noCapital := isUpper_of_isDigit char digit
          rw [if_pos rfl]
          refine step (by rw [noCapital, Bool.and_false]) (ih others (fun isCapital => ?_) last)
          rw [noCapital] at isCapital
          cases isCapital
      | false =>
          rw [if_neg Bool.false_ne_true]
          cases due : state.capital with
          | true =>
              have alone : before.isUpper = false := by
                by_contra isCapital
                rw [apart ((Bool.not_eq_false _).mp isCapital)] at due
                cases due
              rw [if_pos rfl]
              exact step (by rw [alone, Bool.false_and]) (ih others (fun _ => rfl) last)
          | false =>
              obtain ⟨isLower, noCapital⟩ := isLower_toLower char noUnderscore digit
              rw [if_neg Bool.false_ne_true]
              refine step (by rw [noCapital, Bool.and_false]) ?_
              cases camelFrom _ rest with
              | nil => rfl
              | cons d tail => rw [crowdsCapitals, isLower, Bool.not_true, Bool.false_and]

theorem crowdsCapitals_cons {before : Char} (noLower : before.isLower = false)
    (alone : ∀ c ∈ text.head?, (before.isUpper && c.isUpper) = false) :
    crowdsCapitals (before :: text) = crowdsCapitals text := by
  cases text with
  | nil => rfl
  | cons c rest => rw [crowdsCapitals, noLower, alone c rfl, Bool.not_false, Bool.true_and,
      Bool.false_or]

theorem isLowerCase_space : isLowerCase ' ' = false := by
  rw [isLowerCase_of_ascii (by decide)]
  decide

theorem dropLastSeparators_of_isWord (word : IsWord text) : dropLastSeparators text = text :=
  dropLastWhile_of_getLast? fun c last => (word c (List.mem_of_getLast? last)).2

/-- **Words that were run together are left as they are exactly where no capitals crowd.** -/
theorem camel_camel_eq_iff (capital : Bool) (chars : IsIdentifier text) :
    camel capital (camel capital text) = camel capital text ↔
      crowdsCapitals (camel capital text) = false := by
  have trimmed : IsIdentifier (dropLastSeparators text) :=
    isIdentifier_dropLastWhile isSeparator chars
  have word : IsWord (camel capital text) := isWord_camelFrom trimmed
  have starts : startsCapitals capital (camel capital text) = true :=
    startsCapitals_camelFrom trimmed id
  have again : camel capital (camel capital text) = camel capital text ↔
      keepsLetters capital false (camel capital text) = true := by
    rw [camel.eq_1 capital (camel capital text), dropLastSeparators_of_isWord word]
    exact @camelFrom_eq_self_iff_keepsLetters _ { capital } word (by decide : ' '.toNat < 128)
  -- The text stands as if it followed a character that no word starts behind, or one that does.
  obtain ⟨before, noLower, starting, alone⟩ : ∃ before : Char, before.isLower = false ∧
      (!before.isUpper) = capital ∧
      ∀ c ∈ (camel capital text).head?, (before.isUpper && c.isUpper) = false := by
    cases capital with
    | true => exact ⟨'_', by decide, by decide, fun c _ => Bool.false_and c.isUpper⟩
    | false =>
        refine ⟨'A', by decide, by decide, fun c first => ?_⟩
        rw [@head?_camelFrom_noCapital _ { capital := false } trimmed rfl rfl isLowerCase_space c
          first, Bool.and_false]
  have kept := keepsLetters_eq word noLower (starting ▸ starts)
  rw [starting, crowdsCapitals_cons noLower alone] at kept
  rw [again, kept, Bool.not_eq_true']

/-- Words that are run together once more are left as they are from then on. -/
theorem crowdsCapitals_camel_camel (capital : Bool) (chars : IsIdentifier text) :
    crowdsCapitals (camel capital (camel capital text)) = false := by
  have word : IsWord (camel capital text) :=
    isWord_camelFrom (isIdentifier_dropLastWhile isSeparator chars)
  have behind := @crowdsCapitals_camelFrom _ { capital } word '_' nofun isLowerCase_space
  rw [@crowdsCapitals_cons _ '_' (by decide) fun c _ => Bool.false_and c.isUpper] at behind
  rw [camel.eq_1 capital (camel capital text), dropLastSeparators_of_isWord word]
  exact behind

end DataAccess.Naming
